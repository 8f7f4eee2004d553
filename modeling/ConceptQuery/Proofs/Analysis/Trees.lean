import ConceptQuery.Proofs.SpanTree.Groups
import ConceptQuery.Proofs.Analysis.Delimiter
import ConceptQuery.Proofs.Analysis.Tokenizers
import ConceptQuery.Analysis.Analyzer

/-!
# The trees of the word delimiter and of standard analysis with synonyms

Two named analyzers give span trees whose shape can be read off the text.

**The word delimiter** (`build_wordDelimiter`) cuts the text into its maximal runs of non-blank
characters, numbered from one, splits each compound run into its alphanumeric parts, and
lowercases everything. Each run becomes one top-level concept at its own position, with no
alternates; a compound's parts become its leaves, in order (`delimitedConcept`). Nothing else is
in the tree.

**Standard analysis with synonyms** (`build_standardSynonyms`) takes the words of the text,
numbered from one, lowercased, drops the stop words, and stacks the synonyms of each remaining
word on its span. Each remaining word becomes a leaf at its own position, with its synonyms, in
the order they were registered, as alternates.

Both go through the same two steps. The stream read as terms is a sequence of groups, one per
run or word, each at its own position, the positions rising (`Term.collectFrom_numbered` and one
lemma per filter). Such groups build their trees side by side (`SpanTree.build_flatten`), and
each group builds one concept: a compound with its parts (`SpanTree.build_compound`) or a stack
of writings over one span (`SpanTree.build_stack`).
-/

namespace ConceptQuery

/-! ### Pieces, lowercase and synonyms -/

namespace Text.Piece

/-- A piece of a text as a term at a position. -/
def termAt (p : Piece) (position : Nat) : Term := ⟨p.text, p.start, p.stop, position⟩

/-- The words of a text: the pieces between word boundaries that hold an alphanumeric
character. -/
def words (s : String) : List Piece :=
  (wordBounds s).filter fun p => p.text.toList.any isAlphanumeric

/-- Each maximal run of a text takes the bytes of its own characters. -/
theorem stop_sub_start_of_mem_runs {p : Char → Bool} {s : String} {q : Piece}
    (hq : q ∈ runs p s) : q.stop - q.start = q.text.utf8ByteSize :=
  (maximalRuns_runs p s).stop_sub_start (laid_withOffsets s) q hq

end Text.Piece

namespace TokenFilter

/-- The text a lowercase filter leaves of a text: lowercased when it holds an uppercase
character, else as it is. -/
def lowerText (s : String) : String :=
  if s.toList.any Text.isUppercase then Text.lowercase s else s

/-- A token that is not stopped gets the lowercase filter's text. -/
theorem lowerToken_of_not_stopped {t : Token} (h : t.stopped = false) :
    lowerToken t = { t with text := lowerText t.text } := by
  unfold lowerToken lowerText
  by_cases hu : t.text.toList.any Text.isUppercase = true
  · simp [h, hu, Token.withText]
  · rw [if_neg (by simp [h, hu]), if_neg hu]

/-- A stopped token passes the lowercase filter unchanged. -/
theorem lowerToken_of_stopped {t : Token} (h : t.stopped = true) : lowerToken t = t := by
  simp [lowerToken, h]

/-- A token that is not stopped is followed by its synonyms stacked on it. -/
theorem withSynonyms_of_not_stopped (table : SynonymTable) {t : Token} (h : t.stopped = false) :
    withSynonyms table t =
      t :: (table.synonymsOf t.text).map fun s => { t.withText s with increment := 0 } := by
  simp [withSynonyms, h]

/-- A stopped token gets no synonyms. -/
theorem withSynonyms_of_stopped (table : SynonymTable) {t : Token} (h : t.stopped = true) :
    withSynonyms table t = [t] := by
  simp [withSynonyms, h]

end TokenFilter

namespace SynonymTable

/-- More synonyms for a word go after the ones it had; other words keep theirs. -/
theorem synonymsOf_add (t : SynonymTable) (w : String) (syns : List String) (word : String) :
    (t.add w syns).synonymsOf word = t.synonymsOf word ++ (if w = word then syns else []) := by
  obtain ⟨es⟩ := t
  simp only [add, synonymsOf]
  induction es with
  | nil => by_cases h : w = word <;> simp [addTo, h]
  | cons e rest ih =>
    obtain ⟨v, s⟩ := e
    by_cases hv : v = w
    · subst hv
      by_cases h : v = word <;> simp [addTo, h]
    · by_cases h : v = word
      · subst h
        simp [addTo, hv, Ne.symm hv]
      · simp [addTo, hv, h, ih]

/-- The synonyms of a word in a table given in order are those of all its registrations, in
order. -/
theorem synonymsOf_ofList (registrations : List (String × List String)) (word : String) :
    (ofList registrations).synonymsOf word =
      (registrations.filter fun e => e.1 == word).flatMap Prod.snd := by
  -- Induction on the registrations, from any table: each adds its synonyms after the others.
  suffices ∀ t : SynonymTable, (registrations.foldl (fun t e => t.add e.1 e.2) t).synonymsOf word =
      t.synonymsOf word ++ (registrations.filter fun e => e.1 == word).flatMap Prod.snd from
    this empty
  induction registrations with
  | nil => simp
  | cons e rest ih =>
    intro t
    rw [List.foldl_cons, ih, synonymsOf_add, List.filter_cons]
    by_cases h : e.1 = word <;> simp [h]

/-- A table is empty exactly when it counts no word. -/
theorem isEmpty_iff_size_eq_zero (t : SynonymTable) : t.isEmpty = true ↔ t.size = 0 := by
  rw [isEmpty, size, List.isEmpty_iff, List.length_eq_zero_iff]

end SynonymTable

namespace Term

/-- A term with the text a lowercase filter leaves of it; its span stays. -/
def lowercased (t : Term) : Term := { t with text := TokenFilter.lowerText t.text }

/-- Lowercasing keeps a term's span. -/
@[simp] theorem span_lowercased (t : Term) : t.lowercased.span = t.span := rfl

/-- Lowercasing keeps a term's position. -/
@[simp] theorem position_lowercased (t : Term) : t.lowercased.position = t.position := rfl

/-- A lowercased term has the text the lowercase filter leaves. -/
@[simp] theorem text_lowercased (t : Term) : t.lowercased.text = TokenFilter.lowerText t.text :=
  rfl

/-! ### What each stage does to the terms -/

/-- Numbered pieces, read as terms from a counter `q`, are the pieces at positions from `q + 1`:
every token moves the counter by one. -/
theorem collectFrom_numbered (q : Nat) (ps : List Text.Piece) :
    collectFrom q (Tokenizer.numbered ps) = (ps.zipIdx (q + 1)).map fun x => x.1.termAt x.2 := by
  unfold Tokenizer.numbered
  generalize 0 = n
  induction ps generalizing q n with
  | nil => rfl
  | cons p ps ih =>
    rw [List.zipIdx_cons, List.map_cons, List.zipIdx_cons, List.map_cons]
    rw [collectFrom_cons_kept (t := Token.cut p.text n p.start p.stop) rfl, ih]
    rfl

/-- Read as terms, a lowercased stream is the stream with every term lowercased. -/
theorem collectFrom_map_lowerToken (q : Nat) (ts : List Token) :
    collectFrom q (ts.map TokenFilter.lowerToken) = (collectFrom q ts).map lowercased := by
  induction ts generalizing q with
  | nil => rfl
  | cons t rest ih =>
    cases hs : t.stopped with
    | true =>
      rw [List.map_cons, TokenFilter.lowerToken_of_stopped hs, collectFrom_cons_stopped hs, ih,
        collectFrom_cons_stopped hs]
    | false =>
      rw [List.map_cons, TokenFilter.lowerToken_of_not_stopped hs,
        collectFrom_cons_kept (t := { t with text := TokenFilter.lowerText t.text }) hs, ih,
        collectFrom_cons_kept hs, List.map_cons]
      rfl

/-- Writings stacked on a token that is not stopped stand at the counter, over its span, and do
not move it. -/
theorem collectFrom_stacked_append {t : Token} (hs : t.stopped = false) (q : Nat)
    (ss : List String) (rest : List Token) :
    collectFrom q ((ss.map fun s => { t.withText s with increment := 0 }) ++ rest) =
      (ss.map fun s => ⟨s, t.start, t.stop, q⟩) ++ collectFrom q rest := by
  induction ss with
  | nil => rfl
  | cons s ss ih =>
    rw [List.map_cons, List.cons_append,
      collectFrom_cons_kept (t := { t.withText s with increment := 0 }) hs, Nat.add_zero, ih]
    rfl

/-- Read as terms, a stream with synonyms is the stream with each term followed by its synonyms
over its span. -/
theorem collectFrom_flatMap_withSynonyms (table : SynonymTable) (q : Nat) (ts : List Token) :
    collectFrom q (ts.flatMap (TokenFilter.withSynonyms table)) =
      (collectFrom q ts).flatMap fun u =>
        u :: (table.synonymsOf u.text).map fun s => { u with text := s } := by
  induction ts generalizing q with
  | nil => rfl
  | cons t rest ih =>
    rw [List.flatMap_cons]
    cases hs : t.stopped with
    | true =>
      rw [TokenFilter.withSynonyms_of_stopped table hs, List.singleton_append,
        collectFrom_cons_stopped hs, ih, collectFrom_cons_stopped hs]
    | false =>
      rw [TokenFilter.withSynonyms_of_not_stopped table hs, List.cons_append,
        collectFrom_cons_kept hs, collectFrom_stacked_append hs, ih, collectFrom_cons_kept hs,
        List.flatMap_cons]
      rfl

/-- Terms numbered from one stand at rising positions. -/
theorem pairwise_position_zipIdx (ps : List Text.Piece) (k : Nat) :
    ((ps.zipIdx k).map fun x => x.1.termAt x.2).Pairwise fun u v => u.position < v.position := by
  have h : (ps.zipIdx k).Pairwise fun x y => x.2 < y.2 := by
    rw [← List.pairwise_map (f := Prod.snd) (R := (· < ·)), List.zipIdx_map_snd]
    exact List.pairwise_lt_range'
  rw [List.pairwise_map]
  exact h

/-! ### Compounds and their parts -/

/-- The parts of a term stand at its position. -/
theorem position_of_mem_parts {t u : Term} (hu : u ∈ t.parts) : u.position = t.position := by
  obtain ⟨q, -, rfl⟩ := List.mem_map.1 hu
  rfl

/-- The word delimiter keeps a term's position on everything it makes of it. -/
theorem position_of_mem_delimited {keep : Bool} {t u : Term} (hu : u ∈ t.delimited keep) :
    u.position = t.position := by
  unfold delimited at hu
  split at hu
  · rcases List.mem_append.1 hu with hu | hu
    · split at hu <;> simp_all
    · exact position_of_mem_parts hu
  · rw [List.mem_singleton.1 hu]

/-- The parts of a term, lowercased, each come before the next. -/
theorem pairwise_before_parts (t : Term) : (t.parts.map lowercased).Pairwise Before := by
  rw [List.pairwise_map]
  refine t.parts_pairwise.imp_of_mem fun {u v} hu hv huv => ?_
  have hu' : u.start < u.stop := start_lt_stop_of_mem_parts hu
  have hv' : v.start < v.stop := start_lt_stop_of_mem_parts hv
  exact before_of_stop_le ((position_of_mem_parts hu).trans (position_of_mem_parts hv).symm) hu'
    huv hv'

end Term

/-- The concept the word delimiter analyzer makes of a run of non-blank characters, taken as a
term: the run lowercased, with no alternates, and when the run is a compound its parts,
lowercased, as leaves in order. -/
def delimitedConcept (t : Term) : Concept :=
  ⟨t.lowercased, [], (if t.isCompound then t.parts else []).map fun u => .leaf u.lowercased⟩

namespace SpanTree

/-- What the word delimiter makes of a term whose span is as long as its text, lowercased,
builds the one concept `delimitedConcept`. -/
theorem build_delimited {t : Term} (hlen : t.stop - t.start = t.text.utf8ByteSize) :
    (build ((t.delimited true).map Term.lowercased)).concepts = [delimitedConcept t] := by
  unfold Term.delimited delimitedConcept
  cases hc : t.isCompound with
  | false =>
    simpa using @build_compound t.lowercased [] (by simp) List.Pairwise.nil
  | true =>
    have hin : ∀ p ∈ t.parts.map Term.lowercased, t.lowercased.StrictlyContains p := by
      intro p hp
      obtain ⟨q, hq, rfl⟩ := List.mem_map.1 hp
      exact (Term.strictlyContains_congr (Term.span_lowercased t).symm
        (Term.span_lowercased q).symm).1 (Term.strictlyContains_of_mem_parts hlen hc hq)
    have h := build_compound hin (Term.pairwise_before_parts t)
    simpa [List.map_map, Function.comp_def] using h

end SpanTree

/-! ### The two analyzers -/

/-- The word delimiter analyzer splits the runs of non-blank characters and lowercases them. -/
theorem analyze_wordDelimiter (text : String) :
    Analyzer.wordDelimiter.analyze text =
      ((Tokenizer.numbered (Text.Piece.runs (fun c => !Text.isBlank c) text)).flatMap
        (TokenFilter.delimit true)).map TokenFilter.lowerToken := rfl

/-- The filters of standard analysis with synonyms lowercase, drop the stop words, then add
synonyms. -/
theorem applyAll_standardSynonyms (table : SynonymTable) (ts : List Token) :
    TokenFilter.applyAll (Analyzer.standardSynonyms table).filters ts =
      (TokenFilter.stopFrom englishStopWords false 0 (ts.map TokenFilter.lowerToken)).flatMap
        (TokenFilter.withSynonyms table) := rfl

/-- Standard analysis cuts the text at its word boundaries and runs its filters over the words. -/
theorem analyze_standardSynonyms (table : SynonymTable) (text : String) :
    (Analyzer.standardSynonyms table).analyze text =
      TokenFilter.applyAll (Analyzer.standardSynonyms table).filters
        (Tokenizer.wordsOf (Text.Piece.wordBounds text)) := rfl

/-- The analyzer registered as `word_delimiter` gives, for every text, one top-level concept per
maximal run of non-blank characters, in order: the `i`-th run at position `i`, over its bytes,
lowercased, with no alternates; a run that is a compound has one leaf per maximal alphanumeric
run of it, in order, over that run's bytes in the text, lowercased; any other run is a leaf.
There is nothing else in the tree. -/
theorem build_wordDelimiter (text : String) :
    AnalyzerRegistry.defaults.get "word_delimiter" = .ok Analyzer.wordDelimiter ∧
      (SpanTree.build (Term.collect (Analyzer.wordDelimiter.analyze text))).concepts =
        ((Text.Piece.runs (fun c => !Text.isBlank c) text).zipIdx 1).map
          fun x => delimitedConcept (x.1.termAt x.2) := by
  refine ⟨rfl, ?_⟩
  -- The terms come as one group per run, at the run's position.
  let group : Text.Piece × Nat → List Term := fun x =>
    ((x.1.termAt x.2).delimited true).map Term.lowercased
  have hterms : Term.collect (Analyzer.wordDelimiter.analyze text) =
      (((Text.Piece.runs (fun c => !Text.isBlank c) text).zipIdx 1).map group).flatten := by
    rw [Term.collect, analyze_wordDelimiter, Term.collectFrom_map_lowerToken,
      TokenFilter.collectFrom_flatMap_delimit, Term.collectFrom_numbered, List.flatMap_map,
      List.map_flatMap, List.flatMap_def]
  have hgroups : Term.AscendingGroups
      (((Text.Piece.runs (fun c => !Text.isBlank c) text).zipIdx 1).map group) := by
    rw [Term.AscendingGroups, List.pairwise_map]
    refine (List.pairwise_map.1 (Term.pairwise_position_zipIdx _ 1)).imp fun hxy u hu v hv => ?_
    obtain ⟨u', hu', rfl⟩ := List.mem_map.1 hu
    obtain ⟨v', hv', rfl⟩ := List.mem_map.1 hv
    rw [Term.position_lowercased, Term.position_lowercased, Term.position_of_mem_delimited hu',
      Term.position_of_mem_delimited hv']
    exact hxy
  rw [hterms, SpanTree.build_flatten hgroups, List.flatMap_map, List.map_eq_flatMap]
  refine List.flatMap_congr fun x hx => ?_
  exact SpanTree.build_delimited
    (Text.Piece.stop_sub_start_of_mem_runs (List.fst_mem_of_mem_zipIdx hx))

/-- The concepts standard analysis with synonyms makes of words numbered from one: each word
that is no stop word once lowercased, lowercased, with the synonyms of all registrations of its
lowercased text, in order, as alternates. -/
def synonymConcepts (registrations : List (String × List String)) (words : List Text.Piece) :
    List Concept :=
  (((words.zipIdx 1).map fun x => (x.1.termAt x.2).lowercased).filter
      fun u => !englishStopWords.contains u.text).map
    fun u => ⟨u, (registrations.filter fun e => e.1 == u.text).flatMap Prod.snd, []⟩

namespace SpanTree

/-- The filters of standard analysis with synonyms, over words numbered from zero, build one leaf
per word that is no stop word once lowercased, with its synonyms. -/
theorem build_applyAll_standardSynonyms (registrations : List (String × List String))
    (words : List Text.Piece) :
    (build (Term.collect (TokenFilter.applyAll
        (Analyzer.standardSynonyms (.ofList registrations)).filters
        (Tokenizer.numbered words)))).concepts =
      synonymConcepts registrations words := by
  let table := SynonymTable.ofList registrations
  let kept := ((words.zipIdx 1).map fun x => (x.1.termAt x.2).lowercased).filter
    fun u => !englishStopWords.contains u.text
  -- The terms come as one stack per kept word: the word and its synonyms over its span.
  let stack : Term → List Term := fun u =>
    u :: (table.synonymsOf u.text).map fun s => { u with text := s }
  have hterms : Term.collect (TokenFilter.applyAll (Analyzer.standardSynonyms table).filters
      (Tokenizer.numbered words)) = (kept.map stack).flatten := by
    rw [Term.collect, applyAll_standardSynonyms, Term.collectFrom_flatMap_withSynonyms,
      TokenFilter.collectFrom_stopFrom, Term.collectFrom_map_lowerToken, Term.collectFrom_numbered,
      List.map_map, List.flatMap_def]
    rfl
  have hrise : kept.Pairwise fun u v => u.position < v.position := by
    refine List.Pairwise.filter _ ?_
    rw [List.pairwise_map]
    exact (List.pairwise_map.1 (Term.pairwise_position_zipIdx _ 1)).imp id
  have hstack : ∀ u, ∀ v ∈ stack u, v.position = u.position := by
    intro u v hv
    rcases List.mem_cons.1 hv with rfl | hv
    · rfl
    · obtain ⟨s, -, rfl⟩ := List.mem_map.1 hv
      rfl
  have hgroups : Term.AscendingGroups (kept.map stack) := by
    rw [Term.AscendingGroups, List.pairwise_map]
    refine hrise.imp fun huv a ha b hb => ?_
    rw [hstack _ a ha, hstack _ b hb]
    exact huv
  rw [hterms, build_flatten hgroups, List.flatMap_map, synonymConcepts, List.map_eq_flatMap]
  refine List.flatMap_congr fun u _ => ?_
  rw [build_stack, SynonymTable.synonymsOf_ofList]

end SpanTree

/-- The standard analyzer with the synonyms of a list of registrations, over any segments of a
text, gives one leaf per segment that holds an alphanumeric character and is no stop word once
lowercased, in order: the `i`-th such segment (stop words counted) at position `i`, over its
bytes, lowercased, with the synonyms of all registrations of its lowercased text, in order, as
alternates. There is nothing else in the tree. Over the text's own word boundaries, those
segments are its words. -/
theorem build_standardSynonyms (registrations : List (String × List String)) (text : String) :
    (∀ segments : List Text.Piece,
      (SpanTree.build (Term.collect (TokenFilter.applyAll
          (Analyzer.standardSynonyms (.ofList registrations)).filters
          (Tokenizer.wordsOf segments)))).concepts =
        synonymConcepts registrations
          (segments.filter fun p => p.text.toList.any Text.isAlphanumeric)) ∧
    (SpanTree.build (Term.collect
        ((Analyzer.standardSynonyms (.ofList registrations)).analyze text))).concepts =
      synonymConcepts registrations (Text.Piece.words text) := by
  have hsegments : ∀ segments : List Text.Piece,
      (SpanTree.build (Term.collect (TokenFilter.applyAll
          (Analyzer.standardSynonyms (.ofList registrations)).filters
          (Tokenizer.wordsOf segments)))).concepts =
        synonymConcepts registrations
          (segments.filter fun p => p.text.toList.any Text.isAlphanumeric) := by
    intro segments
    rw [Tokenizer.wordsOf_eq_numbered, SpanTree.build_applyAll_standardSynonyms]
  refine ⟨hsegments, ?_⟩
  rw [analyze_standardSynonyms, hsegments]
  rfl

end ConceptQuery
