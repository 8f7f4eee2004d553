import ConceptQuery.Proofs.Text.Runs
import ConceptQuery.Analysis.Tokenizer

/-!
# Pieces cut from a text, and the tokens made of them

Every tokenizer cuts pieces out of a text and numbers them. Whatever the tokenizer, its tokens
keep one contract (`Token.CutFrom`): positions count from zero, each token moves the position by
one and none is stopped, and each is cut from a non-empty byte range of the text whose bytes are
its text, the ranges in increasing order and apart. The byte range `[a, b)` of a text is read with
the core library's `String.Pos.Raw.extract`; a block of the text's characters reads back from the
bytes it takes (`Text.extract_block`).

The pieces behind such tokens are described by a grammar (`Text.Cuts`): the text's characters are
split into blocks, each piece being one block at the bytes it takes, and the characters before,
between and after the pieces are passed over. Numbering the pieces of a derivation gives tokens
that keep the contract (`Tokenizer.cutFrom_numbered`). Pieces that cover a text end to end
(`Text.Tiles`), as the pieces between word boundaries do, derive the grammar whichever of them
are kept (`Text.Tiles.cuts_filter`).
-/

namespace ConceptQuery

namespace Text

/-! ### Byte ranges -/

/-- Extracting from the start of a piece up to its end reads the piece. -/
theorem extract_go₂ : ∀ (r post : List Char) (k : Nat),
    String.Pos.Raw.extract.go₂ (r ++ post) ⟨k⟩ ⟨k + String.utf8Len r⟩ = r := by
  intro r
  induction r with
  | nil =>
    intro post k
    cases post with
    | nil => simp [String.Pos.Raw.extract.go₂]
    | cons d ds => simp [String.Pos.Raw.extract.go₂]
  | cons d ds ih =>
    intro post k
    have hpos := d.utf8Size_pos
    have hne : (⟨k⟩ : String.Pos.Raw) ≠ ⟨k + String.utf8Len (d :: ds)⟩ := by
      intro h
      have h2 : k = k + String.utf8Len (d :: ds) := congrArg String.Pos.Raw.byteIdx h
      rw [String.utf8Len_cons] at h2
      omega
    simp only [List.cons_append, String.Pos.Raw.extract.go₂]
    have hadd : (⟨k⟩ : String.Pos.Raw) + d = ⟨k + d.utf8Size⟩ := rfl
    rw [if_neg hne, hadd, show k + String.utf8Len (d :: ds) = (k + d.utf8Size) + String.utf8Len ds by
      rw [String.utf8Len_cons]; omega]
    exact congrArg (d :: ·) (ih post (k + d.utf8Size))

/-- Extracting passes over the characters before the start. -/
theorem extract_go₁ (e : String.Pos.Raw) : ∀ (pre rest : List Char) (k : Nat),
    String.Pos.Raw.extract.go₁ (pre ++ rest) ⟨k⟩ ⟨k + String.utf8Len pre⟩ e =
      String.Pos.Raw.extract.go₂ rest ⟨k + String.utf8Len pre⟩ e := by
  intro pre
  induction pre with
  | nil =>
    intro rest k
    cases rest with
    | nil => simp [String.Pos.Raw.extract.go₁, String.Pos.Raw.extract.go₂]
    | cons d ds => simp [String.Pos.Raw.extract.go₁]
  | cons d ds ih =>
    intro rest k
    have hpos := d.utf8Size_pos
    have hne : (⟨k⟩ : String.Pos.Raw) ≠ ⟨k + String.utf8Len (d :: ds)⟩ := by
      intro h
      have h2 : k = k + String.utf8Len (d :: ds) := congrArg String.Pos.Raw.byteIdx h
      rw [String.utf8Len_cons] at h2
      omega
    simp only [List.cons_append, String.Pos.Raw.extract.go₁]
    have hadd : (⟨k⟩ : String.Pos.Raw) + d = ⟨k + d.utf8Size⟩ := rfl
    rw [if_neg hne, hadd, show k + String.utf8Len (d :: ds) = (k + d.utf8Size) + String.utf8Len ds by
      rw [String.utf8Len_cons]; omega]
    exact ih rest (k + d.utf8Size)

/-- The bytes of a block of a text's characters read back the block. -/
theorem extract_block {s : String} {pre r post : List Char} (h : s.toList = pre ++ r ++ post) :
    String.Pos.Raw.extract s ⟨String.utf8Len pre⟩ ⟨String.utf8Len pre + String.utf8Len r⟩ =
      String.ofList r := by
  cases r with
  | nil => simp [String.Pos.Raw.extract]
  | cons d ds =>
    have hpos := d.utf8Size_pos
    have hlt : ¬ (String.utf8Len pre + String.utf8Len (d :: ds) ≤ String.utf8Len pre) := by
      rw [String.utf8Len_cons]
      omega
    simp only [String.Pos.Raw.extract, ge_iff_le]
    rw [if_neg (by simpa [String.Pos.Raw.le_iff] using hlt)]
    congr 1
    rw [h, List.append_assoc, show (0 : String.Pos.Raw) = ⟨0⟩ from rfl,
      show (⟨String.utf8Len pre⟩ : String.Pos.Raw) = ⟨0 + String.utf8Len pre⟩ by simp,
      extract_go₁ _ pre ((d :: ds) ++ post) 0]
    simpa using extract_go₂ (d :: ds) post (String.utf8Len pre)

/-! ### Pieces cut in order -/

/-- `Cuts o cs ps`: the pieces `ps` are cut from the characters `cs`, which start at byte `o`, in
order and apart: each is a non-empty block of the characters at the bytes it takes, and the
characters before, between and after them are passed over. -/
inductive Cuts : Nat → List Char → List Piece → Prop
  /-- No more pieces: whatever characters are left are skipped. -/
  | nil (o : Nat) (cs : List Char) : Cuts o cs []
  /-- Some characters skipped, then a non-empty piece at the bytes they leave, then the rest. -/
  | cut {o : Nat} (gap r : List Char) {rest : List Char} {ps : List Piece} :
      r ≠ [] → Cuts (o + String.utf8Len gap + String.utf8Len r) rest ps →
      Cuts o (gap ++ r ++ rest)
        (⟨String.ofList r, o + String.utf8Len gap, o + String.utf8Len gap + String.utf8Len r⟩ :: ps)

namespace Cuts

variable {o : Nat} {cs : List Char} {ps : List Piece}

/-- A piece given by its bytes. -/
theorem cons {a b : Nat} (gap r : List Char) {rest : List Char} (hr : r ≠ [])
    (ha : a = o + String.utf8Len gap) (hb : b = a + String.utf8Len r) (h : Cuts b rest ps) :
    Cuts o (gap ++ r ++ rest) (⟨String.ofList r, a, b⟩ :: ps) := by
  subst ha hb
  exact .cut gap r hr h

/-- Characters passed over in front of the pieces. -/
theorem skip (gap : List Char) (h : Cuts (o + String.utf8Len gap) cs ps) : Cuts o (gap ++ cs) ps := by
  cases h with
  | nil => exact .nil o _
  | cut gap' r hr hrest =>
    rw [← List.append_assoc, ← List.append_assoc]
    exact .cons (gap ++ gap') r hr (by rw [String.utf8Len_append, Nat.add_assoc]) rfl hrest

/-- The pieces lie within the characters, each taking at least one byte. -/
theorem bounds (h : Cuts o cs ps) :
    ∀ q ∈ ps, o ≤ q.start ∧ q.start < q.stop ∧ q.stop ≤ o + String.utf8Len cs := by
  induction h with
  | nil => simp
  | @cut o gap r rest ps hr _ ih =>
    have hpos : 0 < String.utf8Len r := by
      obtain ⟨d, ds, rfl⟩ := List.exists_cons_of_ne_nil hr
      rw [String.utf8Len_cons]
      exact Nat.lt_of_lt_of_le d.utf8Size_pos (Nat.le_add_left _ _)
    intro q hq
    simp only [String.utf8Len_append] at ih ⊢
    rcases List.mem_cons.1 hq with rfl | hq
    · dsimp only
      omega
    · have := ih q hq
      omega

/-- Each piece ends at or before the next one starts. -/
theorem pairwise (h : Cuts o cs ps) : ps.Pairwise fun q q' => q.stop ≤ q'.start := by
  induction h with
  | nil => exact .nil
  | cut gap r hr hrest ih =>
    exact List.pairwise_cons.2 ⟨fun q hq => (hrest.bounds q hq).1, ih⟩

/-- Each piece is a block of the characters, at the bytes before it. -/
theorem block (h : Cuts o cs ps) :
    ∀ q ∈ ps, ∃ pre post, cs = pre ++ q.text.toList ++ post ∧ q.start = o + String.utf8Len pre ∧
      q.stop = q.start + String.utf8Len q.text.toList := by
  induction h with
  | nil => simp
  | @cut o gap r rest ps hr _ ih =>
    intro q hq
    rcases List.mem_cons.1 hq with rfl | hq
    · exact ⟨gap, rest, by rw [String.toList_ofList], rfl, by rw [String.toList_ofList]⟩
    · obtain ⟨pre, post, hcs, hstart, hstop⟩ := ih q hq
      refine ⟨gap ++ r ++ pre, post, by rw [hcs]; simp, ?_, hstop⟩
      rw [hstart, String.utf8Len_append, String.utf8Len_append]
      omega

/-- Pieces cut from a whole text read back from their bytes. -/
theorem extract {s : String} (h : Cuts 0 s.toList ps) :
    ∀ q ∈ ps, String.Pos.Raw.extract s ⟨q.start⟩ ⟨q.stop⟩ = q.text := by
  intro q hq
  obtain ⟨pre, post, hcs, hstart, hstop⟩ := h.block q hq
  rw [Nat.zero_add] at hstart
  rw [hstop, hstart, extract_block hcs, String.ofList_toList]

end Cuts

/-! ### Pieces end to end -/

/-- `Tiles o cs ps`: the pieces `ps` cut the characters `cs`, which start at byte `o`, into
non-empty blocks end to end, each piece one block at the bytes it takes. -/
inductive Tiles : Nat → List Char → List Piece → Prop
  /-- No characters, no pieces. -/
  | nil (o : Nat) : Tiles o [] []
  /-- A non-empty piece at the current byte, then pieces of the rest. -/
  | cut {o : Nat} (r : List Char) {rest : List Char} {ps : List Piece} :
      r ≠ [] → Tiles (o + String.utf8Len r) rest ps →
      Tiles o (r ++ rest) (⟨String.ofList r, o, o + String.utf8Len r⟩ :: ps)

/-- Keeping some of the pieces that cover a text end to end cuts it in order: the pieces left out
are passed over. -/
theorem Tiles.cuts_filter {o : Nat} {cs : List Char} {ps : List Piece} (h : Tiles o cs ps)
    (keep : Piece → Bool) : Cuts o cs (ps.filter keep) := by
  induction h with
  | nil o => exact .nil o []
  | @cut o r rest ps hr _ ih =>
    rw [List.filter_cons]
    split
    · exact .cons [] r hr (by simp) rfl ih
    · exact .skip r ih

end Text

/-! ### The tokens of a text -/

namespace Token

/-- What a tokenizer gives for a text: tokens numbered from zero, each moving the position by one
and none stopped, each cut from a non-empty byte range of the text whose bytes are its text, the
ranges in increasing order and apart. -/
structure CutFrom (text : String) (ts : List Token) : Prop where
  /-- Each token stands at its index. -/
  position : ∀ i (h : i < ts.length), ts[i].position = i
  /-- Each token moves the counter by one and is not stopped. -/
  increment : ∀ t ∈ ts, t.increment = 1 ∧ t.stopped = false
  /-- No token is empty. -/
  start_lt_stop : ∀ t ∈ ts, t.start < t.stop
  /-- Each token ends within the text. -/
  stop_le_size : ∀ t ∈ ts, t.stop ≤ text.utf8ByteSize
  /-- Each token's text is the text between its offsets. -/
  text_eq : ∀ t ∈ ts, String.Pos.Raw.extract text ⟨t.start⟩ ⟨t.stop⟩ = t.text
  /-- Each token ends before the next starts. -/
  ordered : ts.Pairwise fun t u => t.stop ≤ u.start

end Token

namespace Tokenizer

/-- Numbering pieces gives one token per piece. -/
theorem length_numbered (ps : List Text.Piece) : (numbered ps).length = ps.length := by
  simp [numbered]

/-- The token at an index is the piece there, at that position. -/
theorem getElem?_numbered (ps : List Text.Piece) {i : Nat} (h : i < ps.length) :
    (numbered ps)[i]? = some (Token.cut ps[i].text i ps[i].start ps[i].stop) := by
  simp [numbered, h]

/-- Every numbered token is cut from one of the pieces. -/
theorem mem_numbered {ps : List Text.Piece} {t : Token} (h : t ∈ numbered ps) :
    ∃ p ∈ ps, ∃ i, t = Token.cut p.text i p.start p.stop := by
  obtain ⟨x, hx, rfl⟩ := List.mem_map.1 h
  exact ⟨x.1, List.fst_mem_of_mem_zipIdx hx, x.2, rfl⟩

/-- Numbered tokens keep the bytes of their pieces, in order. -/
theorem spans_numbered (ps : List Text.Piece) :
    (numbered ps).map (fun t => (t.start, t.stop)) = ps.map fun p => (p.start, p.stop) := by
  rw [numbered, List.map_map]
  conv => rhs; rw [← List.zipIdx_map_fst 0 ps, List.map_map]
  rfl

/-- Numbering the pieces cut in order from a text gives tokens that keep the contract. -/
theorem cutFrom_numbered {text : String} {ps : List Text.Piece} (h : Text.Cuts 0 text.toList ps) :
    Token.CutFrom text (numbered ps) where
  position i hi := by
    have hps : i < ps.length := by rwa [length_numbered] at hi
    have hget := getElem?_numbered ps hps
    rw [List.getElem?_eq_getElem hi, Option.some.injEq] at hget
    rw [hget]
    rfl
  increment t ht := by
    obtain ⟨p, -, i, rfl⟩ := mem_numbered ht
    exact ⟨rfl, rfl⟩
  start_lt_stop t ht := by
    obtain ⟨p, hp, i, rfl⟩ := mem_numbered ht
    exact (h.bounds p hp).2.1
  stop_le_size t ht := by
    obtain ⟨p, hp, i, rfl⟩ := mem_numbered ht
    have := (h.bounds p hp).2.2
    rwa [Nat.zero_add, ← String.utf8ByteSize_ofList, String.ofList_toList] at this
  text_eq t ht := by
    obtain ⟨p, hp, i, rfl⟩ := mem_numbered ht
    exact h.extract p hp
  ordered := by
    -- the order of the tokens is that of their pieces' bytes
    have hpieces : (ps.map fun p => (p.start, p.stop)).Pairwise fun x y => x.2 ≤ y.1 :=
      List.pairwise_map.2 h.pairwise
    rw [← spans_numbered] at hpieces
    exact List.pairwise_map.1 hpieces

end Tokenizer

end ConceptQuery
