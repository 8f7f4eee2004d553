import ConceptQuery.Regex.Automaton
import ConceptQuery.Regex.Parse
import ConceptQuery.Regex.Meaning

/-!
# Searching with automata

An automaton is run on a text by following all its ways at once, one character at a time (a Pike
machine). Each way is a *thread*, kept with the place its match started; threads are kept in order
of preference, the order in which a backtracking search would try them, and a state reached by a
preferred thread is not taken again by a later one at the same place.

**Which match.** A new thread starts at each place as long as no match has been found, after all
older threads. When a thread ends a match, the threads after it are dropped, and the match is
kept unless a preferred thread ends a later one: among the matches that start leftmost, the most
preferred is reported (leftmost-first).

**All matches.** `Automaton.findAll` reports successive matches that do not overlap, each search
starting where the last match ended; an empty match at the end of the last match is passed over by
searching again one character further.

Positions are indices of characters; the tokenizers turn them into byte offsets.
-/

namespace ConceptQuery.Regex

/-- Threads in order of preference, each a state and the place its match started, with the states
already taken. -/
structure Threads where
  /-- Each thread's state with the place its match started, in order of preference. -/
  list : Array (Nat × Nat)
  /-- The states already taken. -/
  seen : Array Bool

/-- No threads, for an automaton of `n` states. -/
def Threads.empty (n : Nat) : Threads := ⟨#[], Array.replicate n false⟩

namespace Automaton

/-- Follow the states that consume nothing, from the states on `stack` (the top first), in order
of preference: conditions that hold at `pos`, choices (their alternatives in order), and passes. A
state that consumes a character, or ends a match, becomes a thread with the match start `start`;
a state already taken keeps its earlier thread. Each step takes a state off the stack, and each
state taken puts at most its ways out on it, so `Automaton.closureBound` steps are enough. -/
def follow (a : Automaton) (text : Array Char) (pos start : Nat) :
    Nat → List Nat → Threads → Threads
  | 0, _, ts => ts
  | _ + 1, [], ts => ts
  | fuel + 1, sid :: stack, ts =>
    if ts.seen[sid]?.getD true then a.follow text pos start fuel stack ts
    else
      let ts := { ts with seen := ts.seen.set! sid true }
      match a.states[sid]? with
      | some (.empty next) => a.follow text pos start fuel (next :: stack) ts
      | some (.look l next) =>
        if l.holds text pos then a.follow text pos start fuel (next :: stack) ts
        else a.follow text pos start fuel stack ts
      | some (.union alts _) => a.follow text pos start fuel (alts.toList ++ stack) ts
      | some _ => a.follow text pos start fuel stack { ts with list := ts.list.push (sid, start) }
      | none => a.follow text pos start fuel stack ts

/-- Add a thread at state `sid` with match start `start`, and follow it. -/
def addThread (a : Automaton) (text : Array Char) (pos : Nat) (ts : Threads) (sid start : Nat) :
    Threads :=
  a.follow text pos start a.closureBound [sid] ts

/-- Advance the threads over the character at `pos`, in order. A thread at a match ends the step
and drops the threads after it. Returns the threads at `pos + 1` and the match, if any. -/
def step (a : Automaton) (text : Array Char) (pos : Nat) :
    List (Nat × Nat) → Threads → Threads × Option (Nat × Nat)
  | [], next => (next, none)
  | (sid, start) :: rest, next =>
    match a.states[sid]? with
    | some .matched => (next, some (start, pos))
    | some (.chars table target) =>
      match text[pos]? with
      | some c =>
        if Text.RangeTable.covers table c.toNat then
          a.step text pos rest (a.addThread text (pos + 1) next target start)
        else a.step text pos rest next
      | none => a.step text pos rest next
    | _ => a.step text pos rest next

/-- Run from `pos` on with the threads `current` and the match found so far; a new thread starts
at `pos` while there is no match. -/
def run (a : Automaton) (text : Array Char) : Nat → Nat → Threads → Option (Nat × Nat) →
    Option (Nat × Nat)
  | 0, _, _, found => found
  | fuel + 1, pos, current, found =>
    let current :=
      if found.isNone then a.addThread text pos current a.start pos
      else current
    if current.list.isEmpty then
      if found.isSome || pos ≥ text.size then found
      else a.run text fuel (pos + 1) (Threads.empty a.states.size) found
    else
      let (next, m) := a.step text pos current.list.toList (Threads.empty a.states.size)
      let found := m.orElse fun _ => found
      if pos ≥ text.size then found else a.run text fuel (pos + 1) next found

/-- The leftmost-first match starting at `pos` or later, as character positions. -/
def search (a : Automaton) (text : Array Char) (pos : Nat) : Option (Nat × Nat) :=
  if pos > text.size then none
  else a.run text (text.size - pos + 2) pos (Threads.empty a.states.size) none

/-- Successive matches from `pos`, `lastEnd` being the end of the previous match; an empty match
there is replaced by the match found one character further. Two steps advance at least one
character, so twice the length of the text is enough fuel. -/
def findFrom (a : Automaton) (text : Array Char) : Nat → Nat → Option Nat → List (Nat × Nat)
  | 0, _, _ => []
  | fuel + 1, pos, lastEnd =>
    match a.search text pos with
    | none => []
    | some (s, e) =>
      if s == e && lastEnd == some e then
        match a.search text (pos + 1) with
        | none => []
        | some (s', e') => (s', e') :: a.findFrom text fuel e' (some e')
      else (s, e) :: a.findFrom text fuel e (some e)

/-- All successive matches in a text, as character positions.
Source: `Regex::find_iter`, as `RegexTokenizer::spans` calls it. -/
def findAll (a : Automaton) (text : Array Char) : List (Nat × Nat) :=
  a.findFrom text (2 * text.size + 2) 0 none

/-- The automaton of a pattern as written, or why the pattern is refused.
Source: `Regex::new`, as `RegexTokenizer::build` calls it. -/
def ofString (source : String) : Except RegexError Automaton := do
  let ast ← Ast.parse source
  let p ← ast.toPattern
  if p.sizeEstimate + 4 * stateBytes > sizeLimit then throw .tooBig
  return p.toAutomaton

end Automaton

end ConceptQuery.Regex
