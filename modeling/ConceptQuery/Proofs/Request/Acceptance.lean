import ConceptQuery.Proofs.Request.BodyChecks

/-!
# Which requests the default reader accepts

A request is read in stages, each of which may refuse it: its shape (an object of one member),
the name of its kind, the shape of its body (an object), each member of the body in order
(`QueryBody.checkKey`), then the checks on the body the members describe
(`QueryBody.Complete`, and for a query across variants `QueryBody.SettingsValid`).

The main statement (`RequestReader.read_defaults_iff`) says three things of every JSON value:
the default reader accepts it exactly when it passes every stage (`RequestReader.Accepted`); it
refuses it with an error exactly when that is the error of the first stage that fails
(`RequestReader.Refused`); and when its body's members are sorted, as those read from JSON text
are, the query takes the text of the `value` member when there is one, else that of the `text`
member.
-/

namespace ConceptQuery

namespace Query

/-- The text a query was read with. -/
def text : Query → String
  | .variants q => q.text
  | .fields q => q.text

end Query

namespace QueryBody

open Json.Members

/-- A body that the default reader accepts for a query of the kind: every member passes its
check, the body they describe is complete, and for a query across variants its settings are
valid. -/
structure Accepted (kind : QueryKind) (ms : Json.Members) : Prop where
  /-- Every key is known and well typed. -/
  keys : ∀ m ∈ ms, checkKey kind m.1 m.2 = .ok ()
  /-- The body is complete. -/
  complete : (ofMembers ms).Complete
  /-- A query across variants has valid settings. -/
  settings : kind = .variants → (ofMembers ms).SettingsValid

/-- The error that the default reader refuses a body with: that of the first member failing its
check, else that of the first check after the members that fails. -/
inductive Refused (kind : QueryKind) : Json.Members → Error → Prop
  /-- The first bad key, after good ones. -/
  | key {pre post : Json.Members} {m : String × Json} {e : Error} :
      (∀ m' ∈ pre, checkKey kind m'.1 m'.2 = .ok ()) → checkKey kind m.1 m.2 = .error e →
      Refused kind (pre ++ m :: post) e
  /-- Good keys, but an incomplete body. -/
  | incomplete {ms : Json.Members} {e : Error} : (∀ m ∈ ms, checkKey kind m.1 m.2 = .ok ()) →
      (ofMembers ms).Incomplete kind e → Refused kind ms e
  /-- A complete body across variants, but refused settings. -/
  | settings {ms : Json.Members} {e : Error} : (∀ m ∈ ms, checkKey kind m.1 m.2 = .ok ()) →
      (ofMembers ms).Complete → kind = .variants → (ofMembers ms).SettingsRefused e →
      Refused kind ms e

variable {kind : QueryKind} {ms : Json.Members}

/-- Members that all pass their checks are read as the body they describe. -/
theorem readBody_ofMembers (hkeys : ∀ m ∈ ms, checkKey kind m.1 m.2 = .ok ()) :
    RequestReader.readBody kind (.object ms) = .ok (ofMembers ms) :=
  readKeys_ofMembers hkeys

/-- A body of the variants kind is read as a query across variants. -/
theorem readKind_variants (body : Json) :
    RequestReader.defaults.readKind .variants body =
      Query.variants <$> RequestReader.defaults.readVariants body := by
  simp [RequestReader.readKind]

/-- A body of the fields kind is read as a query across fields. -/
theorem readKind_fields (body : Json) :
    RequestReader.defaults.readKind .fields body =
      Query.fields <$> RequestReader.defaults.readFields body := by
  simp [RequestReader.readKind]

/-- A body with a bad key fails with that key's error. -/
theorem readKind_of_readKeys_error {e : Error} (h : readKeys kind {} ms = .error e) :
    RequestReader.defaults.readKind kind (.object ms) = .error e := by
  cases kind <;>
    simp only [RequestReader.readKind, RequestReader.readVariants, RequestReader.readFields,
      RequestReader.readBody, h, bind, Except.bind]

/-- Reading a body fails exactly with the error of the first member that fails its check, or,
every member passing, with that of the first check after the members that fails. -/
theorem readKind_eq_error_iff {e : Error} :
    RequestReader.defaults.readKind kind (.object ms) = .error e ↔ Refused kind ms e := by
  constructor
  · intro h
    cases hk : readKeys kind {} ms with
    | error e' =>
      rw [readKind_of_readKeys_error hk] at h
      cases h
      obtain ⟨pre, m, post, rfl, hpre, hm⟩ := readKeys_eq_error_iff.1 hk
      exact .key hpre hm
    | ok b =>
      obtain ⟨hkeys, rfl⟩ := readKeys_eq_ok_iff.1 hk
      have hb := readBody_ofMembers hkeys
      cases kind with
      | variants =>
        have hv : RequestReader.defaults.readVariants (.object ms) = .error e := by
          rw [readKind_variants] at h
          cases hv : RequestReader.defaults.readVariants (.object ms) <;> simp_all
        rcases (readVariants_eq_error_iff hb).1 hv with hi | ⟨hc, hs⟩
        · exact .incomplete hkeys hi
        · exact .settings hkeys hc rfl hs
      | fields =>
        have hf : RequestReader.defaults.readFields (.object ms) = .error e := by
          rw [readKind_fields] at h
          cases hf : RequestReader.defaults.readFields (.object ms) <;> simp_all
        exact .incomplete hkeys ((readFields_eq_error_iff hb).1 hf)
  · intro h
    cases h with
    | key hpre hm =>
      exact readKind_of_readKeys_error (readKeys_eq_error_iff.2 ⟨_, _, _, rfl, hpre, hm⟩)
    | incomplete hkeys hi =>
      have hb := readBody_ofMembers hkeys
      cases kind with
      | variants => simp [readKind_variants, (readVariants_eq_error_iff hb).2 (.inl hi)]
      | fields => simp [readKind_fields, (readFields_eq_error_iff hb).2 hi]
    | settings hkeys hc hv hs =>
      subst hv
      have hb := readBody_ofMembers hkeys
      simp [readKind_variants, (readVariants_eq_error_iff hb).2 (.inr ⟨hc, hs⟩)]

/-- Every member passes its check in a body that reads. -/
theorem keys_of_readKind {q : Query}
    (h : RequestReader.defaults.readKind kind (.object ms) = .ok q) :
    ∀ m ∈ ms, checkKey kind m.1 m.2 = .ok () := by
  cases hk : readKeys kind {} ms with
  | error e =>
    rw [readKind_of_readKeys_error hk] at h
    cases h
  | ok b => exact (readKeys_eq_ok_iff.1 hk).1

/-- Reading a body succeeds exactly when it is accepted. -/
theorem readKind_eq_ok_iff :
    (∃ q, RequestReader.defaults.readKind kind (.object ms) = .ok q) ↔ Accepted kind ms := by
  constructor
  · rintro ⟨q, hq⟩
    have hkeys := keys_of_readKind hq
    have hb := readBody_ofMembers hkeys
    cases kind with
    | variants =>
      rw [readKind_variants] at hq
      cases hv : RequestReader.defaults.readVariants (.object ms) with
      | error e => simp [hv] at hq
      | ok q' =>
        obtain ⟨hc, hs⟩ := (readVariants_eq_ok_iff hb).1 ⟨q', hv⟩
        exact ⟨hkeys, hc, fun _ => hs⟩
    | fields =>
      rw [readKind_fields] at hq
      cases hf : RequestReader.defaults.readFields (.object ms) with
      | error e => simp [hf] at hq
      | ok q' => exact ⟨hkeys, (readFields_eq_ok_iff hb).1 ⟨q', hf⟩, fun h => by cases h⟩
  · intro ha
    have hb := readBody_ofMembers ha.keys
    cases kind with
    | variants =>
      obtain ⟨q, hq⟩ := (readVariants_eq_ok_iff hb).2 ⟨ha.complete, ha.settings rfl⟩
      exact ⟨.variants q, by simp [readKind_variants, hq]⟩
    | fields =>
      obtain ⟨q, hq⟩ := (readFields_eq_ok_iff hb).2 ha.complete
      exact ⟨.fields q, by simp [readKind_fields, hq]⟩

/-- The query read from a body takes the text of the body the members describe. -/
theorem value_of_readKind {q : Query}
    (h : RequestReader.defaults.readKind kind (.object ms) = .ok q) :
    (ofMembers ms).value = some q.text := by
  have hb := readBody_ofMembers (keys_of_readKind h)
  cases kind with
  | variants =>
    rw [readKind_variants] at h
    cases hv : RequestReader.defaults.readVariants (.object ms) with
    | error e => simp [hv] at h
    | ok q' =>
      simp only [hv] at h
      cases h
      exact value_of_readVariants hb hv
  | fields =>
    rw [readKind_fields] at h
    cases hf : RequestReader.defaults.readFields (.object ms) with
    | error e => simp [hf] at h
    | ok q' =>
      simp only [hf] at h
      cases h
      exact value_of_readFields hb hf

end QueryBody

namespace RequestReader

/-- A request that the default reader accepts: an object of one member, named for a kind of
query, whose body is an object of members that the reader accepts for that kind. -/
def Accepted (v : Json) : Prop :=
  ∃ n kind ms, v = .object [(n, .object ms)] ∧ QueryKind.ofName? n = some kind ∧
    QueryBody.Accepted kind ms

/-- The error that the default reader refuses a request with: that of the first stage that
fails, the stages being the shape of the request, the name of its kind, the shape of its body,
and the body's own. -/
inductive Refused : Json → Error → Prop
  /-- The request is not an object. -/
  | notObject {v : Json} : (∀ ms, v ≠ .object ms) →
      Refused v (.query "request must be a JSON object")
  /-- The object does not hold exactly one member. -/
  | notOne {ms : Json.Members} : (∀ n body, ms ≠ [(n, body)]) →
      Refused (.object ms)
        (.query ("request must hold exactly one query, got " ++ toString ms.length))
  /-- The member names no kind of query. -/
  | unknownKind {n : String} {body : Json} : QueryKind.ofName? n = none →
      Refused (.object [(n, body)]) (.query ("no query registered for [" ++ n ++ "]"))
  /-- The body of the query is not an object. -/
  | bodyNotObject {n : String} {kind : QueryKind} {body : Json} :
      QueryKind.ofName? n = some kind → (∀ ms, body ≠ .object ms) →
      Refused (.object [(n, body)]) (.query ("[" ++ kind.name ++ "] query must be a JSON object"))
  /-- The body of the query is refused. -/
  | body {n : String} {kind : QueryKind} {ms : Json.Members} {e : Error} :
      QueryKind.ofName? n = some kind → QueryBody.Refused kind ms e →
      Refused (.object [(n, .object ms)]) e

/-- A request that is not an object is refused. -/
theorem read_of_not_object {v : Json} (h : ∀ ms, v ≠ .object ms) :
    defaults.read v = .error (.query "request must be a JSON object") := by
  cases v with
  | object ms => exact absurd rfl (h ms)
  | _ => rfl

/-- An object that does not hold exactly one member is refused, with its count. -/
theorem read_of_not_one {ms : Json.Members} (h : ∀ n body, ms ≠ [(n, body)]) :
    defaults.read (.object ms) =
      .error (.query ("request must hold exactly one query, got " ++ toString ms.length)) := by
  rcases ms with _ | ⟨⟨n, body⟩, _ | ⟨m, rest⟩⟩
  · rfl
  · exact absurd rfl (h n body)
  · rfl

/-- A body that is not an object is refused, naming the kind. -/
theorem readKind_of_not_object {kind : QueryKind} {body : Json} (h : ∀ ms, body ≠ .object ms) :
    defaults.readKind kind body =
      .error (.query ("[" ++ kind.name ++ "] query must be a JSON object")) := by
  have hb : readBody kind body =
      .error (.query ("[" ++ kind.name ++ "] query must be a JSON object")) := by
    cases body with
    | object ms => exact absurd rfl (h ms)
    | _ => rfl
  cases kind <;>
    simp only [readKind, readVariants, readFields, hb, bind, Except.bind]

/-- Every request either has the shape of a query, an object of one member naming a kind whose
body is an object, and is read as that body; or it is refused for its shape. -/
theorem read_cases (v : Json) :
    (∃ n kind ms, v = .object [(n, .object ms)] ∧ QueryKind.ofName? n = some kind ∧
      defaults.read v = defaults.readKind kind (.object ms)) ∨
    ∃ e, Refused v e ∧ defaults.read v = .error e := by
  by_cases hv : ∃ ms, v = .object ms
  · obtain ⟨ms, rfl⟩ := hv
    by_cases hone : ∃ n body, ms = [(n, body)]
    · obtain ⟨n, body, rfl⟩ := hone
      cases hk : QueryKind.ofName? n with
      | none => exact .inr ⟨_, .unknownKind hk, by simp [read, hk]⟩
      | some kind =>
        by_cases hb : ∃ bms, body = .object bms
        · obtain ⟨bms, rfl⟩ := hb
          exact .inl ⟨n, kind, bms, rfl, hk, by simp [read, hk]⟩
        · push Not at hb
          exact .inr ⟨_, .bodyNotObject hk hb, by simp [read, hk, readKind_of_not_object hb]⟩
    · push Not at hone
      exact .inr ⟨_, .notOne hone, read_of_not_one hone⟩
  · push Not at hv
    exact .inr ⟨_, .notObject hv, read_of_not_object hv⟩

/-- A request that reads is an object of one member, naming a kind, whose body is an object that
reads as a query of that kind. -/
theorem shape_of_read {v : Json} {q : Query} (h : defaults.read v = .ok q) :
    ∃ n kind ms, v = .object [(n, .object ms)] ∧ QueryKind.ofName? n = some kind ∧
      defaults.readKind kind (.object ms) = .ok q := by
  rcases read_cases v with ⟨n, kind, ms, hv, hk, hr⟩ | ⟨e, -, he⟩
  · exact ⟨n, kind, ms, hv, hk, hr ▸ h⟩
  · rw [he] at h
    cases h

/-- The default reader refuses a request exactly with the error of the first stage it fails. -/
theorem read_eq_error_iff (v : Json) (e : Error) : defaults.read v = .error e ↔ Refused v e := by
  constructor
  · intro h
    rcases read_cases v with ⟨n, kind, ms, rfl, hk, hr⟩ | ⟨e', he', hr⟩
    · exact .body hk (QueryBody.readKind_eq_error_iff.1 (hr ▸ h))
    · rw [hr] at h
      cases h
      exact he'
  · intro h
    cases h with
    | notObject hv => exact read_of_not_object hv
    | notOne hone => exact read_of_not_one hone
    | unknownKind hk => simp [read, hk]
    | bodyNotObject hk hb => simp [read, hk, readKind_of_not_object hb]
    | body hk hr => simp [read, hk, QueryBody.readKind_eq_error_iff.2 hr]

/-- The default reader accepts exactly the requests that pass every stage. -/
theorem read_eq_ok_iff (v : Json) : (∃ q, defaults.read v = .ok q) ↔ Accepted v := by
  constructor
  · rintro ⟨q, hq⟩
    obtain ⟨n, kind, ms, rfl, hk, hr⟩ := shape_of_read hq
    exact ⟨n, kind, ms, rfl, hk, QueryBody.readKind_eq_ok_iff.1 ⟨q, hr⟩⟩
  · rintro ⟨n, kind, ms, rfl, hk, ha⟩
    obtain ⟨q, hq⟩ := QueryBody.readKind_eq_ok_iff.2 ha
    exact ⟨q, by simp [read, hk, hq]⟩

/-- The query read from a request takes the text of the body its members describe. -/
theorem value_of_read {n : String} {ms : Json.Members} {q : Query}
    (h : defaults.read (.object [(n, .object ms)]) = .ok q) :
    (QueryBody.ofMembers ms).value = some q.text := by
  obtain ⟨n', kind, ms', hv, -, hr⟩ := shape_of_read h
  cases hv
  exact QueryBody.value_of_readKind hr

/-- The default reader accepts a request exactly when it passes every stage, and refuses it
exactly with the error of the first stage it fails: its shape, the name of its kind, the shape of
its body, each member of the body in order, then what every query needs and, across variants,
the settings. A query read from a body with sorted members takes the text of its `value` member
when there is one, else that of its `text` member. -/
theorem read_defaults_iff (v : Json) :
    ((∃ q, defaults.read v = .ok q) ↔ Accepted v) ∧
      (∀ e, defaults.read v = .error e ↔ Refused v e) ∧
      ∀ n ms q, v = .object [(n, .object ms)] → Json.Members.Sorted ms →
        defaults.read v = .ok q →
          some q.text =
            ((Json.Members.last? ms "value").or (Json.Members.last? ms "text")).bind Json.str? := by
  refine ⟨read_eq_ok_iff v, read_eq_error_iff v, fun n ms q hv hs hq => ?_⟩
  subst hv
  rw [← QueryBody.ofMembers_value_of_sorted hs, value_of_read hq]

end RequestReader

end ConceptQuery
