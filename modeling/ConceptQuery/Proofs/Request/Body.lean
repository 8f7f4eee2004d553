import ConceptQuery.Proofs.Compile.Errors
import ConceptQuery.Proofs.Request.RoundTrip

/-!
# The members of a query's body

The body of a query is read member by member. Each member passes or fails a check of its own
(`QueryBody.checkKey`): its key must be one the kind of query has, and its value of the key's
type, as a table gives them (`QueryKind.keyTypes`). The check reads nothing but the member
(`QueryBody.outcome_readKey`), so:

* reading the members fails exactly when one fails its check, with the error of the first that
  does (`QueryBody.readKeys_eq_error_iff`);
* when every member passes, the body read is the one the members describe
  (`QueryBody.readKeys_eq_ok_iff`): each setting from the last member of its key, the text from
  the last member named `value` or `text` (`QueryBody.ofMembers`).

Members read from JSON text are sorted, each key once, and `text` sorts before `value`: there a
`value` member wins over a `text` member (`QueryBody.ofMembers_value_of_sorted`).
-/

namespace ConceptQuery

/-! ### The last member of a key -/

namespace Json

/-- A number read as a double and narrowed to a single, as the weights of a body are. -/
def single? : Json → Option Float32
  | .number n => some (doubleToSingle n.toFloat)
  | _ => none

namespace Members

/-- The value of the last member whose key passes a test. -/
def lastWhere? (ms : Members) (p : String → Bool) : Option Json :=
  ((ms.filter fun m => p m.1).getLast?).map Prod.snd

/-- The value of the last member of a key: the one kept by a reader that sets each member in
turn. -/
def last? (ms : Members) (key : String) : Option Json := lastWhere? ms (· == key)

/-- No members hold a key of any kind. -/
@[simp] theorem lastWhere?_nil (p : String → Bool) : lastWhere? [] p = none := rfl

/-- A member added last wins when its key is of the kind sought. -/
@[simp] theorem lastWhere?_append_singleton (ms : Members) (p : String → Bool) (key : String)
    (value : Json) :
    lastWhere? (ms ++ [(key, value)]) p = if p key then some value else lastWhere? ms p := by
  cases h : p key <;> simp [lastWhere?, List.filter_append, h]

/-- The first member counts only when no later member has a key of the kind sought. -/
theorem lastWhere?_cons (m : String × Json) (ms : Members) (p : String → Bool) :
    lastWhere? (m :: ms) p = (lastWhere? ms p).or (if p m.1 then some m.2 else none) := by
  unfold lastWhere?
  cases h : p m.1 with
  | false => rw [List.filter_cons, if_neg (by simp [h]), if_neg Bool.false_ne_true, Option.or_none]
  | true =>
    rw [List.filter_cons, if_pos h, List.getLast?_cons]
    cases (ms.filter fun m => p m.1).getLast? <;> rfl

/-- The first member counts only when no later member has the key. -/
theorem last?_cons (m : String × Json) (ms : Members) (key : String) :
    last? (m :: ms) key = (last? ms key).or (if m.1 = key then some m.2 else none) := by
  simp [last?, lastWhere?_cons]

/-- No member of a key that sorts below every key of the members. -/
theorem last?_eq_none_of_lt {ms : Members} {key : String} (h : ∀ q ∈ ms, key < q.1) :
    last? ms key = none := by
  induction ms with
  | nil => rfl
  | cons q rest ih =>
    rw [last?_cons, ih fun r hr => h r (List.mem_cons_of_mem _ hr),
      if_neg (ne_of_gt (h q List.mem_cons_self))]
    rfl

/-- In sorted members the last member named `value` or `text` is the `value` member when there is
one, since `text` sorts first. -/
theorem lastWhere?_value_or_text {ms : Members} (h : Sorted ms) :
    lastWhere? ms (fun k => k == "value" || k == "text") =
      (last? ms "value").or (last? ms "text") := by
  induction ms with
  | nil => rfl
  | cons q rest ih =>
    obtain ⟨hq, hrest⟩ := sorted_cons.1 h
    rw [lastWhere?_cons, last?_cons, last?_cons, ih hrest]
    by_cases hv : q.1 = "value"
    · -- Every later key sorts after `value`, so after `text` too.
      have hnv : last? rest "value" = none := last?_eq_none_of_lt (hv ▸ hq)
      have hnt : last? rest "text" = none :=
        last?_eq_none_of_lt fun r hr => lt_trans (by decide) (hv ▸ hq r hr)
      simp [hv, hnv, hnt]
    · by_cases ht : q.1 = "text"
      · have hnt : last? rest "text" = none := last?_eq_none_of_lt (ht ▸ hq)
        simp [ht, hnt]
      · simp [hv, ht]

end Members

end Json

/-! ### The keys of a body -/

namespace QueryBody

/-- The JSON type of a member's value. -/
inductive KeyType where
  /-- A field list: a list text, an array of list texts, or an object of weights. -/
  | fieldList
  /-- A string. -/
  | string
  /-- A number. -/
  | number
  /-- An object. -/
  | object
  /-- A boolean. -/
  | boolean
deriving DecidableEq, Repr

namespace KeyType

/-- The type as a message names it. -/
def noun : KeyType → String
  | .fieldList => "a field list"
  | .string => "a string"
  | .number => "a number"
  | .object => "an object"
  | .boolean => "a boolean"

/-- Check that a value has the type, failing with the given error; a field list is checked by
reading it, failing with the error of its own reading. -/
def check : KeyType → Json → Error → Except Error Unit
  | .fieldList, v, _ => outcome (FieldWeights.ofJson v)
  | .string, .string _, _ => .ok ()
  | .number, .number _, _ => .ok ()
  | .object, .object _, _ => .ok ()
  | .boolean, .bool _, _ => .ok ()
  | _, _, e => .error e

end KeyType

/-- The keys every body has, each with its type. -/
def commonKeys : List (String × KeyType) :=
  [("fields", .fieldList), ("value", .string), ("text", .string), ("analyzer", .string),
    ("boost", .number)]

/-- The keys only the body of a query across variants has: its provider, the provider's
parameters, and its combine mode. -/
def variantsKeys : List (String × KeyType) :=
  [("script", .string), ("params", .object), ("use_dis_max", .boolean), ("tie_breaker", .number)]

end QueryBody

namespace QueryKind

/-- The keys of a body of each kind, each with its type. -/
def keyTypes : QueryKind → List (String × QueryBody.KeyType)
  | .fields => QueryBody.commonKeys
  | .variants => QueryBody.commonKeys ++ QueryBody.variantsKeys

/-- The type of a key of the kind, if it has the key. -/
def keyType? (kind : QueryKind) (key : String) : Option QueryBody.KeyType :=
  kind.keyTypes.lookup key

end QueryKind

namespace QueryBody

open Json.Members

/-- The error of a key the kind does not have. -/
def unsupported (kind : QueryKind) (key : String) : Error :=
  .query ("[" ++ kind.name ++ "] query does not support [" ++ key ++ "]")

/-- The error of a value of the wrong type for a key. -/
def mistyped (kind : QueryKind) (key : String) (t : KeyType) : Error :=
  .query ("[" ++ kind.name ++ "] [" ++ key ++ "] must be " ++ t.noun)

/-- The check a member passes or fails: its key is one of the kind's, and its value of the key's
type. -/
def checkKey (kind : QueryKind) (key : String) (value : Json) : Except Error Unit :=
  match kind.keyType? key with
  | none => .error (unsupported kind key)
  | some t => t.check value (mistyped kind key t)

/-- The body that members describe: each setting from the last member of its key, the text from
the last member named `value` or `text`, the defaults where there is none. -/
def ofMembers (ms : Json.Members) : QueryBody where
  fields := (last? ms "fields").bind fun j => (FieldWeights.ofJson j).toOption
  value := (lastWhere? ms fun k => k == "value" || k == "text").bind Json.str?
  analyzer := (last? ms "analyzer").bind Json.str?
  boost := ((last? ms "boost").bind Json.single?).getD 1
  script := (last? ms "script").bind Json.str?
  params := ((last? ms "params").bind Json.members?).getD []
  useDisMax := ((last? ms "use_dis_max").bind Json.bool?).getD false
  tieBreaker := ((last? ms "tie_breaker").bind Json.single?).getD 0

/-- In sorted members, a `value` member wins over a `text` member. -/
theorem ofMembers_value_of_sorted {ms : Json.Members} (h : Json.Members.Sorted ms) :
    (ofMembers ms).value = ((last? ms "value").or (last? ms "text")).bind Json.str? := by
  rw [ofMembers, lastWhere?_value_or_text h]

/-! ### Reading one member -/

/-- A key a kind knows is listed with its type among the kind's keys. -/
theorem mem_keyTypes {kind : QueryKind} {key : String} {t : KeyType}
    (h : kind.keyType? key = some t) : (key, t) ∈ kind.keyTypes := by
  obtain ⟨l₁, l₂, hl, -⟩ := List.lookup_eq_some_iff.1 h
  rw [hl]
  exact List.mem_append_right _ List.mem_cons_self

/-- Reading a string member fails exactly as the string check does. -/
theorem outcome_stringOf (kind : QueryKind) (key : String) (value : Json) :
    outcome (stringOf kind key value) = KeyType.string.check value (mistyped kind key .string) := by
  cases value <;>
    simp [stringOf, outcome, KeyType.check, mistyped, KeyType.noun, String.append_assoc]

/-- Reading a number member fails exactly as the number check does. -/
theorem outcome_numberOf (kind : QueryKind) (key : String) (value : Json) :
    outcome (numberOf kind key value) = KeyType.number.check value (mistyped kind key .number) := by
  cases value <;>
    simp [numberOf, outcome, KeyType.check, mistyped, KeyType.noun, String.append_assoc]

/-- A key every kind knows fails exactly as the check of its type. -/
theorem outcome_readKey_common (kind : QueryKind) (b : QueryBody) {key : String} {t : KeyType}
    (h : (key, t) ∈ commonKeys) (value : Json) :
    outcome (readKey kind b key value) = t.check value (mistyped kind key t) := by
  simp only [commonKeys, List.mem_cons, Prod.mk.injEq, List.not_mem_nil, or_false] at h
  rcases h with ⟨rfl, rfl⟩ | ⟨rfl, rfl⟩ | ⟨rfl, rfl⟩ | ⟨rfl, rfl⟩ | ⟨rfl, rfl⟩ <;>
    simp [readKey, KeyType.check, outcome_stringOf, outcome_numberOf]

/-- A key only queries across variants know fails exactly as the check of its type. -/
theorem outcome_readKey_variants (b : QueryBody) {key : String} {t : KeyType}
    (h : (key, t) ∈ variantsKeys) (value : Json) :
    outcome (readKey .variants b key value) = t.check value (mistyped .variants key t) := by
  simp only [variantsKeys, List.mem_cons, Prod.mk.injEq, List.not_mem_nil, or_false] at h
  rcases h with ⟨rfl, rfl⟩ | ⟨rfl, rfl⟩ | ⟨rfl, rfl⟩ | ⟨rfl, rfl⟩
  · simp [readKey, readVariantsKey, outcome_stringOf]
  -- The parameters and the mode are matched on in place.
  · cases value <;>
      simp [readKey, readVariantsKey, KeyType.check, outcome, mistyped, KeyType.noun,
        String.append_assoc]
  · cases value <;>
      simp [readKey, readVariantsKey, KeyType.check, outcome, mistyped, KeyType.noun,
        String.append_assoc]
  · simp [readKey, readVariantsKey, outcome_numberOf]

/-- A key the kind does not know is refused as unsupported. -/
theorem outcome_readKey_unknown {kind : QueryKind} (b : QueryBody) {key : String}
    (h : kind.keyType? key = none) (value : Json) :
    outcome (readKey kind b key value) = .error (unsupported kind key) := by
  simp only [QueryKind.keyType?, List.lookup_eq_none_iff] at h
  cases kind <;>
    simp_all [QueryKind.keyTypes, commonKeys, variantsKeys, readKey, readVariantsKey, outcome,
      unsupported]

/-- Reading a member fails or succeeds as its check does, whatever was read before it. -/
theorem outcome_readKey (kind : QueryKind) (b : QueryBody) (key : String) (value : Json) :
    outcome (readKey kind b key value) = checkKey kind key value := by
  rw [checkKey]
  cases ht : kind.keyType? key with
  | none => exact outcome_readKey_unknown b ht value
  | some t =>
    have hmem := mem_keyTypes ht
    cases kind with
    | fields => exact outcome_readKey_common .fields b hmem value
    | variants =>
      rcases List.mem_append.1 hmem with hc | hv
      · exact outcome_readKey_common .variants b hc value
      · exact outcome_readKey_variants b hv value

/-- A well-typed key every kind knows adds its member to the body read so far. -/
theorem readKey_ofMembers_common (kind : QueryKind) (ms : Json.Members) {key : String}
    {t : KeyType} (h : (key, t) ∈ commonKeys) {value : Json} {e : Error}
    (hv : t.check value e = .ok ()) :
    readKey kind (ofMembers ms) key value = .ok (ofMembers (ms ++ [(key, value)])) := by
  simp only [commonKeys, List.mem_cons, Prod.mk.injEq, List.not_mem_nil, or_false] at h
  rcases h with ⟨rfl, rfl⟩ | ⟨rfl, rfl⟩ | ⟨rfl, rfl⟩ | ⟨rfl, rfl⟩ | ⟨rfl, rfl⟩
  · obtain ⟨fs, hfs⟩ := outcome_eq_ok_iff.1 hv
    simp [readKey, hfs, ofMembers, last?, Except.toOption]
  all_goals
    cases value <;> simp [KeyType.check] at hv
    simp [readKey, stringOf, numberOf, ofMembers, last?, Json.single?, Json.str?]

/-- A well-typed key of queries across variants adds its member to the body read so far. -/
theorem readKey_ofMembers_variants (ms : Json.Members) {key : String} {t : KeyType}
    (h : (key, t) ∈ variantsKeys) {value : Json} {e : Error} (hv : t.check value e = .ok ()) :
    readKey .variants (ofMembers ms) key value = .ok (ofMembers (ms ++ [(key, value)])) := by
  simp only [variantsKeys, List.mem_cons, Prod.mk.injEq, List.not_mem_nil, or_false] at h
  rcases h with ⟨rfl, rfl⟩ | ⟨rfl, rfl⟩ | ⟨rfl, rfl⟩ | ⟨rfl, rfl⟩ <;>
    cases value <;> simp [KeyType.check] at hv <;>
    simp [readKey, readVariantsKey, stringOf, numberOf, ofMembers, last?, Json.single?,
      Json.members?, Json.bool?, Json.str?]

/-- A member that passes its check sets its own part of the body that the members before it
describe. -/
theorem readKey_ofMembers {kind : QueryKind} {key : String} {value : Json}
    (h : checkKey kind key value = .ok ()) (ms : Json.Members) :
    readKey kind (ofMembers ms) key value = .ok (ofMembers (ms ++ [(key, value)])) := by
  unfold checkKey at h
  cases ht : kind.keyType? key with
  | none =>
    rw [ht] at h
    cases h
  | some t =>
    rw [ht] at h
    have hmem := mem_keyTypes ht
    cases kind with
    | fields => exact readKey_ofMembers_common .fields ms hmem h
    | variants =>
      rcases List.mem_append.1 hmem with hc | hv
      · exact readKey_ofMembers_common .variants ms hc h
      · exact readKey_ofMembers_variants ms hv h

/-! ### Reading the members -/

/-- Reading members fails or succeeds as their checks, taken in order, do. -/
theorem outcome_readKeys (kind : QueryKind) (b : QueryBody) (ms : Json.Members) :
    outcome (readKeys kind b ms) = forM ms fun m => checkKey kind m.1 m.2 := by
  induction ms generalizing b with
  | nil => rfl
  | cons m rest ih =>
    obtain ⟨key, value⟩ := m
    rw [List.forM_cons, ← outcome_readKey kind b key value]
    show outcome (readKey kind b key value >>= fun b' => readKeys kind b' rest) = _
    cases readKey kind b key value with
    | error e => rfl
    | ok b' => exact ih b'

/-- Members that all pass their checks are read as the body they describe. -/
theorem readKeys_ofMembers {kind : QueryKind} {ms : Json.Members}
    (h : ∀ m ∈ ms, checkKey kind m.1 m.2 = .ok ()) : readKeys kind {} ms = .ok (ofMembers ms) := by
  induction ms using List.reverseRecOn with
  | nil => rfl
  | append_singleton ms m ih =>
    have hms := ih fun m' hm' => h m' (List.mem_append_left _ hm')
    rw [RequestDraft.readKeys_append kind hms]
    show (readKey kind (ofMembers ms) m.1 m.2 >>= fun b => readKeys kind b []) = _
    rw [readKey_ofMembers (h m (List.mem_append_right _ List.mem_cons_self)) ms]
    rfl

/-- Reading members succeeds exactly when every member passes its check, with the body they
describe. -/
theorem readKeys_eq_ok_iff {kind : QueryKind} {ms : Json.Members} {b : QueryBody} :
    readKeys kind {} ms = .ok b ↔
      (∀ m ∈ ms, checkKey kind m.1 m.2 = .ok ()) ∧ b = ofMembers ms := by
  constructor
  · intro h
    have hchecks : ∀ m ∈ ms, checkKey kind m.1 m.2 = .ok () := by
      rw [← forM_eq_ok_iff, ← outcome_readKeys kind {}, h]
      rfl
    refine ⟨hchecks, ?_⟩
    rw [readKeys_ofMembers hchecks] at h
    exact (Except.ok.inj h).symm
  · rintro ⟨h, rfl⟩
    exact readKeys_ofMembers h

/-- Reading members fails exactly when one fails its check, with the error of the first that
does. -/
theorem readKeys_eq_error_iff {kind : QueryKind} {ms : Json.Members} {e : Error} :
    readKeys kind {} ms = .error e ↔
      ∃ pre m post, ms = pre ++ m :: post ∧ (∀ m' ∈ pre, checkKey kind m'.1 m'.2 = .ok ()) ∧
        checkKey kind m.1 m.2 = .error e := by
  rw [← outcome_eq_error_iff, outcome_readKeys, forM_eq_error_iff]

end QueryBody

end ConceptQuery
