import ConceptQuery.Proofs.Analysis.Whitespace
import ConceptQuery.Proofs.Regex.Matches

/-!
# The pattern and word tokenizers

A pattern tokenizer finds the matches of its pattern, as character positions, and cuts either the
non-empty matches or the non-empty gaps between them out of the text. The word tokenizer cuts the
text at its word boundaries and keeps the pieces that hold an alphanumeric character. Both keep
the contract every tokenizer keeps (`Token.CutFrom`).

The cuts are stated over any matches and any segments, assuming only what the search and the word
boundaries promise. Matches in order and apart (`Regex.Ordered`) give gaps around them in order
too (`Tokenizer.ordered_gapsAround`): the non-empty ones are blocks of the text's characters in
order (`Tokenizer.cuts_between`), each read at the bytes the characters before its ends take
(`Tokenizer.byteOffsets_getD`), and the gaps and the matches together take every character of the
text once (`Tokenizer.positions_gapsAround`). Segments that cover the text end to end
(`Text.Tiles`) are cut in order, whichever are kept (`Tokenizer.cutFrom_wordsOf`).

The library's own search meets its promise (`Regex.Automaton.findAll_ordered`), and so do its word
boundaries (`Text.tiles_wordBounds`).
-/

namespace ConceptQuery

namespace Text

/-- The piece of the characters `cs` from character position `m.1` to `m.2`, at the bytes the
characters before each end take. -/
def Piece.between (cs : List Char) (m : Nat × Nat) : Piece :=
  ⟨String.ofList ((cs.drop m.1).take (m.2 - m.1)), String.utf8Len (cs.take m.1),
    String.utf8Len (cs.take m.2)⟩

/-! ### Word boundaries -/

/-- A non-empty run laid from `o` to `m` is the first piece of a covering from `o`. -/
theorem Tiles.ofRun {o m : Nat} {run : List (Char × Nat)} {cs : List Char} {ps : List Piece}
    (hne : run ≠ []) (hrun : Laid o run m) (h : Tiles m cs ps) :
    Tiles o (run.map Prod.fst ++ cs) (Piece.ofRun run m :: ps) := by
  obtain ⟨y, hy⟩ : ∃ y, run.head? = some y := Option.ne_none_iff_exists'.1 (by simpa using hne)
  have hstart : (run.head?.map Prod.snd).getD m = o := by
    rw [hy]
    exact hrun.head_offset hy
  have hm := hrun.stop_eq
  subst hm
  unfold Piece.ofRun
  rw [hstart]
  exact .cut _ (by simpa using hne) h

/-- Cutting at word boundaries covers the characters end to end: the piece being built and the
characters still to cut, laid one after another, are cut into pieces that cover them. The
induction is on the characters still to cut. -/
theorem tiles_cutWords (xs : List Classified) : ∀ (before : List WordBreak)
    (current : List Classified) {o e : Nat},
    Laid o (Classified.runOf current ++ xs.map fun x => (x.char, x.offset)) e →
    Tiles o ((Classified.runOf current ++ xs.map fun x => (x.char, x.offset)).map Prod.fst)
      (cutWords before current xs) := by
  induction xs with
  | nil =>
    intro before current o e h
    cases current with
    | nil => exact .nil o
    | cons x current =>
      -- the last piece ends where its last character does
      have hrun : Classified.runOf (x :: current) =
          Classified.runOf current ++ [(x.char, x.offset)] := by
        simp [Classified.runOf]
      rw [List.map_nil, List.append_nil] at h ⊢
      have hend := h
      rw [hrun] at hend
      rw [cutWords, ← List.append_nil ((Classified.runOf _).map _), ← Laid.concat_end hend]
      exact .ofRun (by simp [hrun]) h (.nil _)
  | cons x rest ih =>
    intro before current o e h
    rw [List.map_cons] at h ⊢
    rw [cutWords]
    split
    · -- a boundary before `x`: the piece built so far is cut, and `x` starts the next
      rename_i hb
      have hne : Classified.runOf current ≠ [] := by
        simp only [Bool.and_eq_true, Bool.not_eq_true', List.isEmpty_eq_false_iff] at hb
        simpa [Classified.runOf] using hb.2
      obtain ⟨m, hcur, hx⟩ := laid_append_iff.1 h
      have hm : x.offset = m := (laid_cons_iff.1 hx).1
      rw [List.map_append, hm]
      exact .ofRun hne hcur (ih _ [x] hx)
    · -- no boundary: `x` joins the piece being built
      have hrun : Classified.runOf (x :: current) ++ rest.map (fun x => (x.char, x.offset)) =
          Classified.runOf current ++ (x.char, x.offset) :: rest.map fun x => (x.char, x.offset) := by
        simp [Classified.runOf]
      rw [← hrun] at h ⊢
      exact ih _ _ h

/-- The pieces between word boundaries cover the text end to end. -/
theorem tiles_wordBounds (s : String) : Tiles 0 s.toList (Piece.wordBounds s) := by
  have hxs : (classify s).map (fun x => (x.char, x.offset)) = withOffsets s := by
    rw [classify, List.map_map]
    exact List.map_id _
  have h := tiles_cutWords (classify s) [] [] (e := s.utf8ByteSize)
    (by rw [hxs]; exact laid_withOffsets s)
  rwa [hxs, Classified.runOf, List.reverse_nil, List.map_nil, List.nil_append,
    map_fst_withOffsets] at h

end Text

namespace Tokenizer

/-! ### Byte offsets -/

/-- The byte offsets of the characters, and of the end, are the sizes of the characters before
them. -/
theorem byteOffsets_toList (cs : List Char) :
    (byteOffsets cs).toList =
      (List.range (cs.length + 1)).map fun i => String.utf8Len (cs.take i) := by
  -- the fold pushes the offset of each character, the size of the characters before it
  have hfold : ∀ (ds : List Char) (arr : Array Nat) (o : Nat),
      ds.foldl (fun (acc : Array Nat × Nat) c => (acc.1.push acc.2, acc.2 + c.utf8Size)) (arr, o) =
        (⟨arr.toList ++ (List.range ds.length).map fun i => o + String.utf8Len (ds.take i)⟩,
          o + String.utf8Len ds) := by
    intro ds
    induction ds with
    | nil => simp
    | cons d ds ih =>
      intro arr o
      rw [List.foldl_cons, ih]
      simp only [Array.toList_push, List.length_cons, List.range_succ_eq_map, List.map_cons,
        List.map_map, Function.comp_def, List.take_zero, List.take_succ_cons, String.utf8Len_cons,
        String.utf8Len_nil, Nat.add_zero, List.append_assoc, List.singleton_append, Prod.mk.injEq]
      refine ⟨?_, by omega⟩
      congr 3
      refine List.map_congr_left fun i _ => ?_
      omega
  rw [byteOffsets, hfold]
  simp [List.range_succ]

/-- The offset table at a character position is the size of the characters before it. -/
theorem byteOffsets_getD (cs : List Char) {i : Nat} (h : i ≤ cs.length) :
    (byteOffsets cs).getD i 0 = String.utf8Len (cs.take i) := by
  rw [Array.getD_eq_getD_getElem?, ← Array.getElem?_toList, byteOffsets_toList, List.getElem?_map,
    List.getElem?_range (by omega)]
  rfl

/-! ### Gaps -/

/-- The gaps around ranges from `a` on: before each range, and after the last one up to `n`, the
empty ones included. -/
def gapsAround (n : Nat) : Nat → List (Nat × Nat) → List (Nat × Nat)
  | a, [] => [(a, n)]
  | a, (s, e) :: rest => (a, s) :: gapsAround n e rest

/-- The gaps a pattern tokenizer keeps are the non-empty gaps around the matches. -/
theorem gapsBetween_eq_filter (n : Nat) : ∀ (a : Nat) (ms : List (Nat × Nat)),
    gapsBetween n a ms = (gapsAround n a ms).filter fun g => g.1 < g.2
  | a, [] => by
    rw [gapsBetween, gapsAround, List.filter_cons, List.filter_nil]
    simp
  | a, (s, e) :: rest => by
    rw [gapsBetween, gapsAround, List.filter_cons, gapsBetween_eq_filter n e rest]
    simp

/-- The gaps around ordered ranges are in order too. -/
theorem ordered_gapsAround {n a : Nat} {ms : List (Nat × Nat)} (h : Regex.Ordered n a ms) :
    Regex.Ordered n a (gapsAround n a ms) := by
  induction h with
  | nil h => exact .cons (Nat.le_refl _) h (.nil (Nat.le_refl _))
  | @cons a s e rest has hse _ ih => exact .cons (Nat.le_refl a) has (ih.of_le hse)

/-- Empty ranges take no position. -/
theorem positions_filter_nonempty (l : List (Nat × Nat)) :
    (l.filter fun r => r.1 < r.2).flatMap (fun r => List.range' r.1 (r.2 - r.1)) =
      l.flatMap fun r => List.range' r.1 (r.2 - r.1) := by
  induction l with
  | nil => rfl
  | cons r rest ih =>
    rw [List.filter_cons]
    split
    · rw [List.flatMap_cons, List.flatMap_cons, ih]
    · rename_i hr
      have hempty : r.2 - r.1 = 0 := by
        simp only [decide_eq_true_eq] at hr
        omega
      rw [ih, List.flatMap_cons, hempty, List.range'_zero, List.nil_append]

/-- The gaps around ordered ranges and the ranges together take every position from `a` to `n`
once: gap, range, gap, and so on, each starting where the one before ends. -/
theorem positions_gapsAround {n a : Nat} {ms : List (Nat × Nat)} (h : Regex.Ordered n a ms) :
    ((gapsAround n a ms).flatMap (fun r => List.range' r.1 (r.2 - r.1)) ++
      ms.flatMap fun r => List.range' r.1 (r.2 - r.1)).Perm (List.range' a (n - a)) := by
  induction h with
  | nil => simp [gapsAround]
  | @cons a s e rest has hse hrest ih =>
    have hen := hrest.le
    -- the positions from `a`: the gap before the range, the range, and those from its end
    have hsplit : List.range' a (n - a) =
        List.range' a (s - a) ++ (List.range' s (e - s) ++ List.range' e (n - e)) := by
      have h1 := @List.range'_append_1 s (e - s) (n - e)
      have h2 := @List.range'_append_1 a (s - a) (n - s)
      rw [show s + (e - s) = e by omega, show e - s + (n - e) = n - s by omega] at h1
      rw [show a + (s - a) = s by omega, show s - a + (n - s) = n - a by omega] at h2
      rw [h1, h2]
    simp only [gapsAround, List.flatMap_cons, List.append_assoc]
    rw [hsplit]
    exact ((List.perm_append_comm_assoc _ _ _).trans (ih.append_left _)).append_left _

/-! ### Pieces between character positions -/

/-- Ordered non-empty ranges of characters are blocks of them in order, each at the bytes of the
characters before its ends. -/
theorem cuts_between (cs : List Char) {a : Nat} {ms : List (Nat × Nat)}
    (h : Regex.Ordered cs.length a ms) (hne : ∀ m ∈ ms, m.1 < m.2) :
    Text.Cuts (String.utf8Len (cs.take a)) (cs.drop a) (ms.map (Text.Piece.between cs)) := by
  induction h with
  | nil => exact .nil _ _
  | @cons a s e rest has hse hrest ih =>
    have hen := hrest.le
    have hlt : s < e := hne (s, e) List.mem_cons_self
    -- the characters from `a`: the gap before the range, the range, and those from its end
    have hdrop : cs.drop a = (cs.drop a).take (s - a) ++ (cs.drop s).take (e - s) ++ cs.drop e := by
      have h1 : (cs.drop a).drop (s - a) = cs.drop s := by
        rw [List.drop_drop, Nat.add_sub_of_le has]
      have h2 : (cs.drop s).drop (e - s) = cs.drop e := by
        rw [List.drop_drop, Nat.add_sub_of_le hse]
      rw [List.append_assoc, ← h2, List.take_append_drop, ← h1, List.take_append_drop]
    have hpiece : (cs.drop s).take (e - s) ≠ [] := by
      rw [Ne, List.take_eq_nil_iff, List.drop_eq_nil_iff]
      omega
    rw [List.map_cons, hdrop]
    refine .cons _ _ hpiece ?_ ?_ (ih fun m hm => hne m (List.mem_cons_of_mem _ hm))
    · show String.utf8Len (cs.take s) = _
      rw [← String.utf8Len_append, ← List.take_add, Nat.add_sub_of_le has]
    · show String.utf8Len (cs.take e) = String.utf8Len (cs.take s) + _
      rw [← String.utf8Len_append, ← List.take_add, Nat.add_sub_of_le hse]

/-- Numbering ordered non-empty ranges of a text's characters gives tokens that keep the
contract. -/
theorem cutFrom_between {text : String} {ms : List (Nat × Nat)}
    (h : Regex.Ordered text.toList.length 0 ms) (hne : ∀ m ∈ ms, m.1 < m.2) :
    Token.CutFrom text (numbered (ms.map (Text.Piece.between text.toList))) := by
  have hcuts := cuts_between text.toList h hne
  rw [List.take_zero, List.drop_zero, String.utf8Len_nil] at hcuts
  exact cutFrom_numbered hcuts

/-! ### Any matches in order -/

section Matches

variable {n : Nat} {found : List (Nat × Nat)}

/-- In matches mode a pattern tokenizer keeps the non-empty matches. -/
theorem patternRanges_matches (n : Nat) (found : List (Nat × Nat)) :
    patternRanges .matches n found = found.filter fun m => m.1 < m.2 := rfl

/-- In gaps mode a pattern tokenizer keeps the non-empty gaps around the matches. -/
theorem patternRanges_gaps (n : Nat) (found : List (Nat × Nat)) :
    patternRanges .gaps n found = (gapsAround n 0 found).filter fun g => g.1 < g.2 :=
  gapsBetween_eq_filter n 0 found

/-- From matches in order, either mode cuts ranges in order. -/
theorem ordered_patternRanges (mode : PatternMode) (h : Regex.Ordered n 0 found) :
    Regex.Ordered n 0 (patternRanges mode n found) := by
  cases mode
  · exact h.filter _
  · rw [patternRanges_gaps]
    exact (ordered_gapsAround h).filter _

/-- Either mode cuts only non-empty ranges. -/
theorem lt_of_mem_patternRanges (mode : PatternMode) :
    ∀ m ∈ patternRanges mode n found, m.1 < m.2 := by
  intro m hm
  cases mode
  · simpa using (List.mem_filter.1 hm).2
  · rw [patternRanges_gaps] at hm
    simpa using (List.mem_filter.1 hm).2

/-- The gaps a pattern tokenizer keeps and matches in order together take every position below
`n` once. -/
theorem gaps_and_matches_cover (h : Regex.Ordered n 0 found) :
    ((((gapsAround n 0 found).filter fun g => g.1 < g.2) ++ found).flatMap
      fun r => List.range' r.1 (r.2 - r.1)).Perm (List.range n) := by
  rw [List.flatMap_append, positions_filter_nonempty, List.range_eq_range']
  exact positions_gapsAround h

/-- The tokens of ranges of characters in order are the pieces between the ranges' ends: within
the characters, the offsets table gives the bytes the characters before each end take. -/
theorem cutRanges_eq_between {cs : List Char} {ranges : List (Nat × Nat)}
    (h : Regex.Ordered cs.length 0 ranges) :
    cutRanges cs ranges = numbered (ranges.map (Text.Piece.between cs)) := by
  refine congrArg numbered (List.map_congr_left fun m hm => ?_)
  obtain ⟨-, hse, hen⟩ := h.bounds m hm
  show (⟨_, (byteOffsets cs).getD m.1 0, (byteOffsets cs).getD m.2 0⟩ : Text.Piece) = _
  rw [byteOffsets_getD cs (Nat.le_trans hse hen), byteOffsets_getD cs hen]
  rfl

/-- From matches in order within a text, either mode gives tokens that keep the contract. -/
theorem cutFrom_patternRanges (mode : PatternMode) {text : String}
    (h : Regex.Ordered text.toList.length 0 found) :
    Token.CutFrom text
      (cutRanges text.toList (patternRanges mode text.toList.length found)) := by
  have hranges := ordered_patternRanges mode h
  rw [cutRanges_eq_between hranges]
  exact cutFrom_between hranges (lt_of_mem_patternRanges mode)

end Matches

/-! ### Any segments that cover the text -/

/-- The word loop from tokens already made appends the segments that hold an alphanumeric
character, numbered on from those tokens. -/
theorem foldl_wordsOf (segments : List Text.Piece) : ∀ tokens : List Token,
    segments.foldl (fun tokens p =>
      if p.text.toList.any Text.isAlphanumeric then
        tokens ++ [Token.cut p.text tokens.length p.start p.stop]
      else tokens) tokens =
      tokens ++ ((segments.filter fun p => p.text.toList.any Text.isAlphanumeric).zipIdx
        tokens.length).map fun (p, i) => Token.cut p.text i p.start p.stop := by
  induction segments with
  | nil => simp
  | cons p rest ih =>
    intro tokens
    by_cases hp : p.text.toList.any Text.isAlphanumeric = true
    · -- a word: it is the next token, and the rest are numbered after it
      simp only [List.foldl_cons, List.filter_cons, hp, if_true]
      rw [ih, List.zipIdx_cons, List.map_cons, List.length_append, List.length_singleton,
        List.append_assoc]
      rfl
    · simp only [List.foldl_cons, List.filter_cons, hp, if_false, Bool.false_eq_true]
      exact ih tokens

/-- The word tokens of segments are the segments that hold an alphanumeric character,
numbered. -/
theorem wordsOf_eq_numbered (segments : List Text.Piece) :
    wordsOf segments =
      numbered (segments.filter fun p => p.text.toList.any Text.isAlphanumeric) := by
  rw [wordsOf, foldl_wordsOf, List.nil_append]
  rfl

/-- From segments that cover a text end to end, the word tokens keep the contract. -/
theorem cutFrom_wordsOf {text : String} {segments : List Text.Piece}
    (h : Text.Tiles 0 text.toList segments) : Token.CutFrom text (wordsOf segments) := by
  rw [wordsOf_eq_numbered]
  exact cutFrom_numbered (h.cuts_filter _)

/-! ### The library's own matches and segments -/

/-- The matches of a text lie within its characters, in order. -/
theorem ordered_findAll (a : Regex.Automaton) (text : String) :
    Regex.Ordered text.toList.length 0 (a.findAll text.toList.toArray) := by
  have h := a.findAll_ordered text.toList.toArray
  rwa [List.size_toArray] at h

end Tokenizer

/-! ### What the pattern and word tokenizers cut -/

open Tokenizer in
/-- The pattern and word tokenizers, over any matches and any segments that keep the contracts of
the search and of the word boundaries. Given matches of a text in order and apart, matches mode
gives the non-empty matches and gaps mode the non-empty gaps before, between and after them, each
token the characters between the ends of its range at the bytes the characters before them take;
the gaps kept and the matches together take every character of the text once, and both modes keep
the contract of every tokenizer. Given segments that cover the text end to end, the word
tokenizer gives those that hold an alphanumeric character, numbered, and keeps the contract too.
The library's own search and word boundaries meet those contracts, and the tokenizers are these
cuts of them. -/
theorem pattern_and_word_tokens (source : String) (a : Regex.Automaton) (text : String) :
    (∀ found : List (Nat × Nat), Regex.Ordered text.toList.length 0 found →
      cutRanges text.toList (patternRanges .matches text.toList.length found) =
        numbered ((found.filter fun m => m.1 < m.2).map (Text.Piece.between text.toList)) ∧
      cutRanges text.toList (patternRanges .gaps text.toList.length found) =
        numbered (((gapsAround text.toList.length 0 found).filter fun g => g.1 < g.2).map
          (Text.Piece.between text.toList)) ∧
      ((((gapsAround text.toList.length 0 found).filter fun g => g.1 < g.2) ++ found).flatMap
        fun r => List.range' r.1 (r.2 - r.1)).Perm (List.range text.toList.length) ∧
      ∀ mode, Token.CutFrom text
        (cutRanges text.toList (patternRanges mode text.toList.length found))) ∧
    (∀ segments : List Text.Piece, Text.Tiles 0 text.toList segments →
      wordsOf segments =
        numbered (segments.filter fun p => p.text.toList.any Text.isAlphanumeric) ∧
      Token.CutFrom text (wordsOf segments)) ∧
    Regex.Ordered text.toList.length 0 (a.findAll text.toList.toArray) ∧
    Text.Tiles 0 text.toList (Text.Piece.wordBounds text) ∧
    (∀ mode, (pattern source a mode).tokenize text =
      cutRanges text.toList (patternRanges mode text.toList.length
        (a.findAll text.toList.toArray))) ∧
    words.tokenize text = wordsOf (Text.Piece.wordBounds text) := by
  refine ⟨fun found h => ?_, fun segments h => ⟨wordsOf_eq_numbered segments, cutFrom_wordsOf h⟩,
    ordered_findAll a text, Text.tiles_wordBounds text, fun _ => rfl, rfl⟩
  refine ⟨?_, ?_, gaps_and_matches_cover h, fun mode => cutFrom_patternRanges mode h⟩
  · rw [patternRanges_matches, cutRanges_eq_between (h.filter _)]
  · rw [patternRanges_gaps, cutRanges_eq_between ((ordered_gapsAround h).filter _)]

end ConceptQuery
