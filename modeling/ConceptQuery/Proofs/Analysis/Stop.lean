import ConceptQuery.Analysis.Filter
import ConceptQuery.Query.Term

/-!
# Stop words keep positions

A stop filter drops the stop words of a token stream, or only marks them, and in both ways the
terms of the stream stay where they were: the terms after the filter are the terms before it less
those whose text is a stop word (`collect_stop_eq_filter`). So the two ways cannot be told apart
once the stream is read as terms.

**Why the positions hold.** A term's position is the running sum of the increments before it,
its own included (`Term.collectFrom`). A marked word stays in the stream and still adds its
increment there. A removed word's increment is carried to the next token that stays, which may be
a token stopped earlier that gives no term; either way the sum at every later token is the same
(`TokenFilter.collectFrom_stopFrom`, by induction on the stream with the carried increment
added to the counter).

**Stopped tokens are not looked at again.** A token marked by an earlier filter is no stop word
for this one (`TokenFilter.isStopWord`): marking changes exactly the stop words
(`TokenFilter.stopFrom_mark`), and removing keeps every other token, stopped or not, with only its
increment changed (`TokenFilter.stopFrom_remove`).
-/

namespace ConceptQuery

namespace StopFilter

/-- A filter knows no stop word exactly when it counts none: a word given twice is counted once,
but every word given is counted. -/
theorem isEmpty_iff_size_eq_zero (words : List String) :
    isEmpty words = true ↔ size words = 0 := by
  rw [isEmpty, size, List.isEmpty_iff, List.length_eq_zero_iff, List.eq_nil_iff_forall_not_mem,
    List.eq_nil_iff_forall_not_mem]
  simp only [List.mem_eraseDups]

end StopFilter

namespace Term

/-- A stopped token moves the counter and gives no term. -/
theorem collectFrom_cons_stopped {t : Token} (h : t.stopped = true) (p : Nat)
    (rest : List Token) : collectFrom p (t :: rest) = collectFrom (p + t.increment) rest := by
  simp [collectFrom, h]

/-- A token that is not stopped gives a term at the counter it moves to. -/
theorem collectFrom_cons_kept {t : Token} (h : t.stopped = false) (p : Nat) (rest : List Token) :
    collectFrom p (t :: rest) =
      ⟨t.text, t.start, t.stop, p + t.increment⟩ :: collectFrom (p + t.increment) rest := by
  simp [collectFrom, h]

end Term

/-- The token with its increment set aside: what a filter that only moves increments keeps. -/
def Token.eraseIncrement (t : Token) : Token := { t with increment := 0 }

namespace TokenFilter

variable (words : List String)

/-- Whether a stop filter takes a token for a stop word: it is not stopped yet and its text is one
of the words. -/
def isStopWord (t : Token) : Bool := !t.stopped && words.contains t.text

/-- The token marked as stopped when it is a stop word. -/
def markStop (t : Token) : Token := if isStopWord words t then { t with stopped := true } else t

/-- A stop word is marked, or dropped with its increment carried to the next kept token. -/
theorem stopFrom_cons_of_isStopWord {t : Token} (h : isStopWord words t = true) (markOnly : Bool)
    (c : Nat) (rest : List Token) :
    stopFrom words markOnly c (t :: rest) =
      if markOnly then { t with stopped := true } :: stopFrom words markOnly c rest
      else stopFrom words markOnly (c + t.increment) rest := by
  simp only [isStopWord] at h
  simp only [stopFrom, StopFilter.isStopWord, h, if_true]

/-- A token that is no stop word stays, with the increments carried so far added to its own. -/
theorem stopFrom_cons_of_not_isStopWord {t : Token} (h : isStopWord words t = false)
    (markOnly : Bool) (c : Nat) (rest : List Token) :
    stopFrom words markOnly c (t :: rest) =
      { t with increment := t.increment + c } :: stopFrom words markOnly 0 rest := by
  simp only [isStopWord] at h
  simp only [stopFrom, StopFilter.isStopWord, h, Bool.false_eq_true, if_false]

/-- Read as terms from a counter `p`, the filtered stream is the stream read from `p` plus the
carried increment `c`, less the stop words. -/
theorem collectFrom_stopFrom (markOnly : Bool) (p c : Nat) (ts : List Token) :
    Term.collectFrom p (stopFrom words markOnly c ts) =
      (Term.collectFrom (p + c) ts).filter fun u => !words.contains u.text := by
  -- Induction on the stream: the carried increment moves into the counter at the next token
  -- that stays.
  induction ts generalizing p c with
  | nil => rfl
  | cons t rest ih =>
    cases hw : isStopWord words t with
    | false =>
      rw [stopFrom_cons_of_not_isStopWord words hw]
      -- The token stays and carries the increments; it gives a term unless stopped before.
      let t' : Token := { t with increment := t.increment + c }
      rcases Bool.eq_false_or_eq_true t.stopped with hs | hs
      · rw [Term.collectFrom_cons_stopped (t := t') hs, Term.collectFrom_cons_stopped hs, ih,
          Nat.add_zero, ← Nat.add_assoc, Nat.add_right_comm p c]
      · have hc : words.contains t.text = false := by simpa [isStopWord, hs] using hw
        rw [Term.collectFrom_cons_kept (t := t') hs, Term.collectFrom_cons_kept hs, ih,
          List.filter_cons]
        simp only [t', hc, Bool.not_false, if_true, Nat.add_zero, ← Nat.add_assoc,
          Nat.add_right_comm p c]
    | true =>
      obtain ⟨hs, hc⟩ : t.stopped = false ∧ words.contains t.text = true := by
        simpa [isStopWord] using hw
      rw [stopFrom_cons_of_isStopWord words hw, Term.collectFrom_cons_kept hs, List.filter_cons]
      simp only [hc, Bool.not_true, Bool.false_eq_true, if_false]
      cases markOnly with
      | false => rw [if_neg Bool.false_ne_true, ih, ← Nat.add_assoc]
      | true =>
        rw [if_pos rfl, Term.collectFrom_cons_stopped (t := { t with stopped := true }) rfl, ih,
          Nat.add_right_comm p t.increment]

/-- Marking carries nothing: each stop word is marked and every other token passes as it is. -/
theorem stopFrom_mark (ts : List Token) : stopFrom words true 0 ts = ts.map (markStop words) := by
  induction ts with
  | nil => rfl
  | cons t rest ih =>
    cases hw : isStopWord words t with
    | false =>
      rw [stopFrom_cons_of_not_isStopWord words hw, ih, List.map_cons, markStop, hw]
      simp
    | true =>
      rw [stopFrom_cons_of_isStopWord words hw, if_pos rfl, ih, List.map_cons, markStop, hw]
      rfl

/-- Removing keeps the tokens that are no stop words, in order, changed in their increments
only. -/
theorem stopFrom_remove (c : Nat) (ts : List Token) :
    (stopFrom words false c ts).map Token.eraseIncrement =
      (ts.filter fun t => !isStopWord words t).map Token.eraseIncrement := by
  induction ts generalizing c with
  | nil => rfl
  | cons t rest ih =>
    cases hw : isStopWord words t with
    | false =>
      rw [stopFrom_cons_of_not_isStopWord words hw, List.filter_cons, hw]
      simp [ih, Token.eraseIncrement]
    | true =>
      rw [stopFrom_cons_of_isStopWord words hw, if_neg Bool.false_ne_true, ih, List.filter_cons, hw]
      rfl

end TokenFilter

/-- A stop filter, removing or marking, keeps every term at its position and drops exactly the
terms whose text is a stop word, so its two ways give the same terms; tokens stopped before are
never taken for stop words: marking changes only the stop words, and removing keeps every other
token with its text, span and mark. -/
theorem collect_stop_eq_filter (words : List String) (ts : List Token) :
    (∀ markOnly, Term.collect ((TokenFilter.stop words markOnly).apply ts) =
      (Term.collect ts).filter fun u => !words.contains u.text) ∧
    (TokenFilter.stop words true).apply ts = ts.map (TokenFilter.markStop words) ∧
    ((TokenFilter.stop words false).apply ts).map Token.eraseIncrement =
      (ts.filter fun t => !TokenFilter.isStopWord words t).map Token.eraseIncrement :=
  ⟨fun markOnly => TokenFilter.collectFrom_stopFrom words markOnly 0 0 ts,
    TokenFilter.stopFrom_mark words ts, TokenFilter.stopFrom_remove words 0 ts⟩

end ConceptQuery
