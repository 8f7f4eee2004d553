import ConceptQuery.Regex.Pattern

/-!
# Automata

A pattern is compiled to a nondeterministic automaton (Thompson's construction). Its states
consume a character of a set, test a condition, choose among alternatives in order of preference,
pass on, or end a match. Every state but a choice has one way out, so a piece of automaton under
construction is a `Fragment`: its start and the one state whose way out is still open, to be
joined to whatever follows (`Build.patch`).

**Preference.** A choice lists its alternatives in order of preference. For a greedy repetition
the way into the repeated pattern comes first and the way on second; for a lazy one the other way
round (a lazy choice puts each later alternative first).

**Repetitions.**

* `x?` chooses between `x` and skipping it;
* `x*` is a choice that loops through `x`, when `x` must consume something; when `x` may consume
  nothing it is built as `(x+)?`, so that a pass through `x` that consumes nothing cannot be
  preferred over leaving the loop in the wrong order;
* `x{n,}` is `n - 1` copies of `x`, then a copy that loops back to itself;
* `x{n}` is `n` copies, and `x{n,m}` is `n` copies followed by `m - n` optional copies, each of
  which may leave to a common exit.
-/

namespace ConceptQuery.Regex

/-- A state of an automaton. -/
inductive State where
  /-- Consume a character of the set, given as sorted ranges of code points, and go to `next`. -/
  | chars (table : Array (Nat × Nat)) (next : Nat)
  /-- Go on to the alternatives, the earlier preferred; `newestFirst` says that alternatives joined
  later are put first (a lazy choice). -/
  | union (alternatives : Array Nat) (newestFirst : Bool)
  /-- Go on to `next` if the condition holds here. -/
  | look (l : Look) (next : Nat)
  /-- Go on to `next`. -/
  | empty (next : Nat)
  /-- A match ends here. -/
  | matched

/-- The alternatives of a choice; none for other states. -/
def State.alternativeCount : State → Nat
  | .union alts _ => alts.size
  | _ => 0

/-- Enough steps to follow the states that consume nothing from any state: one per state, one per
alternative of a choice, and one more. -/
def closureBoundOf (states : Array State) : Nat :=
  states.foldl (fun n s => n + 1 + s.alternativeCount) 1

/-- An automaton: its states, where it starts, and `closureBoundOf` its states. -/
structure Automaton where
  /-- The states. -/
  states : Array State
  /-- The state matching starts from. -/
  start : Nat
  /-- Enough steps to follow the states that consume nothing. -/
  closureBound : Nat

/-- Building an automaton: the states so far. -/
abbrev Build := StateM (Array State)

/-- A piece of automaton: where it starts, and the state whose way out is still open. -/
structure Fragment where
  /-- The state the piece starts at. -/
  start : Nat
  /-- The state whose way out is still open. -/
  exit : Nat

namespace Build

/-- Add a state; its number. -/
def add (s : State) : Build Nat := modifyGet fun b => (b.size, b.push s)

/-- Join the way out of `source` to `target`: a choice gains an alternative. -/
def patch (source target : Nat) : Build Unit := modify fun b =>
  b.modify source fun
    | .chars t _ => .chars t target
    | .look l _ => .look l target
    | .empty _ => .empty target
    | .union alts newestFirst =>
      .union (if newestFirst then #[target] ++ alts else alts.push target) newestFirst
    | .matched => .matched

/-- A piece that consumes nothing. -/
def emptyFragment : Build Fragment := do
  let e ← add (.empty 0)
  return ⟨e, e⟩

/-- A new choice, preferring earlier alternatives when greedy. -/
def choice (greedy : Bool) : Build Nat := add (.union #[] (!greedy))

/-- Join further copies of a piece after `f`. -/
def chainCopies (piece : Build Fragment) (f : Fragment) : Nat → Build Fragment
  | 0 => return f
  | k + 1 => do
    let g ← piece
    patch f.exit g.start
    chainCopies piece ⟨f.start, g.exit⟩ k

/-- `n` copies of a piece one after the other. -/
def copies (piece : Build Fragment) : Nat → Build Fragment
  | 0 => emptyFragment
  | n + 1 => do chainCopies piece (← piece) n

/-- A piece or nothing. -/
def zeroOrOne (piece : Build Fragment) (greedy : Bool) : Build Fragment := do
  let u ← choice greedy
  let f ← piece
  let e ← add (.empty 0)
  patch u f.start
  patch u e
  patch f.exit e
  return ⟨u, e⟩

/-- At least `n` copies of a piece; `consumes` says the piece must consume something. -/
def atLeast (piece : Build Fragment) (consumes greedy : Bool) (n : Nat) : Build Fragment := do
  match n with
  | 0 =>
    if consumes then
      let u ← choice greedy
      let f ← piece
      patch u f.start
      patch f.exit u
      return ⟨u, u⟩
    else
      let f ← piece
      let plus ← choice greedy
      patch f.exit plus
      patch plus f.start
      let question ← choice greedy
      let e ← add (.empty 0)
      patch question f.start
      patch question e
      patch plus e
      return ⟨question, e⟩
  | 1 =>
    let f ← piece
    let u ← choice greedy
    patch f.exit u
    patch u f.start
    return ⟨f.start, u⟩
  | k + 2 =>
    let front ← copies piece (k + 1)
    let last ← piece
    let u ← choice greedy
    patch front.exit last.start
    patch last.exit u
    patch u last.start
    return ⟨front.start, u⟩

/-- Optional copies of a piece after the state `prev`, each may leave to `e`; the last exit. -/
def optionalCopies (piece : Build Fragment) (greedy : Bool) (e : Nat) : Nat → Nat → Build Nat
  | 0, prev => return prev
  | k + 1, prev => do
    let u ← choice greedy
    let f ← piece
    patch prev u
    patch u f.start
    patch u e
    optionalCopies piece greedy e k f.exit

/-- From `min` to `max` copies of a piece. -/
def bounded (piece : Build Fragment) (greedy : Bool) (min max : Nat) : Build Fragment := do
  let front ← copies piece min
  if min == max then return front
  let e ← add (.empty 0)
  let last ← optionalCopies piece greedy e (max - min) front.exit
  patch last e
  return ⟨front.start, e⟩

mutual

/-- The automaton piece of a pattern. -/
def compile : Pattern → Build Fragment
  | .empty => emptyFragment
  | .chars s => do
    let id ← add (.chars s.toTable 0)
    return ⟨id, id⟩
  | .look l => do
    let id ← add (.look l 0)
    return ⟨id, id⟩
  | .concat parts => compileConcat parts
  | .alternation alts => compileAlternation alts
  | .capture sub => compile sub
  | .repetition min max greedy sub =>
    let consumes := match sub.minLen with
      | some n => n > 0
      | none => false
    match min, max with
    | 0, some 1 => zeroOrOne (compile sub) greedy
    | n, none => atLeast (compile sub) consumes greedy n
    | n, some m => if n == m then copies (compile sub) n else bounded (compile sub) greedy n m

/-- The piece of patterns one after the other. -/
def compileConcat : List Pattern → Build Fragment
  | [] => emptyFragment
  | p :: rest => do compileChain (← compile p) rest

/-- Join the pieces of patterns after `f`. -/
def compileChain (f : Fragment) : List Pattern → Build Fragment
  | [] => return f
  | p :: rest => do
    let g ← compile p
    patch f.exit g.start
    compileChain ⟨f.start, g.exit⟩ rest

/-- The piece of alternatives: a choice among them, all leaving to one exit. -/
def compileAlternation : List Pattern → Build Fragment
  | [] => do
    let id ← add (.chars #[] 0)
    return ⟨id, id⟩
  | [p] => compile p
  | p :: q :: rest => do
    let first ← compile p
    let second ← compile q
    let u ← add (.union #[] false)
    let e ← add (.empty 0)
    patch u first.start
    patch first.exit e
    patch u second.start
    patch second.exit e
    compileMoreAlternatives u e rest
    return ⟨u, e⟩

/-- Add further alternatives to the choice `u`, leaving to `e`. -/
def compileMoreAlternatives (u e : Nat) : List Pattern → Build Unit
  | [] => return
  | p :: rest => do
    let f ← compile p
    patch u f.start
    patch f.exit e
    compileMoreAlternatives u e rest

end

end Build

/-- The automaton of a pattern: its piece, ending in a match. -/
def Pattern.toAutomaton (p : Pattern) : Automaton :=
  let build : Build Nat := do
    let f ← Build.compile p
    let m ← Build.add .matched
    Build.patch f.exit m
    return f.start
  let (start, states) := build.run #[]
  ⟨states, start, closureBoundOf states⟩

/-- The bytes a state takes in the count against the size limit. -/
def stateBytes : Nat := 32

/-- An estimate of the bytes of the automaton piece of a set: a single character is one state
per UTF-8 byte, a set of ASCII characters one state with a transition per range and an exit,
and a larger set an automaton over UTF-8 bytes, counted by its ranges. -/
def CharSet.sizeEstimate (s : CharSet) : Nat :=
  match s.ranges with
  | [] => 2 * stateBytes
  | [(a, b)] =>
    if a == b then stateBytes * utf8Length a
    else if b ≤ 0x7F then 2 * stateBytes + 8
    else stateBytes + 80
  | rs => if s.isAscii then 2 * stateBytes + 8 * rs.length else stateBytes + 80 * rs.length

/-- An estimate of the bytes of a pattern's automaton piece, counted as the construction above
adds states: `stateBytes` a state, and four bytes more for each alternative of a choice. A
capture group adds two states that mark its ends. -/
def Pattern.sizeEstimate : Pattern → Nat
  | .empty => stateBytes
  | .chars s => s.sizeEstimate
  | .look _ => stateBytes
  | .concat parts =>
    (parts.attach.map fun ⟨p, _⟩ => p.sizeEstimate).foldl (· + ·) (if parts.isEmpty then stateBytes else 0)
  | .alternation alts =>
    (alts.attach.map fun ⟨p, _⟩ => p.sizeEstimate).foldl (· + ·) (2 * stateBytes + 4 * alts.length)
  | .capture sub => sub.sizeEstimate + 2 * stateBytes
  | .repetition min max _ sub =>
    let n := sub.sizeEstimate
    let choice := stateBytes + 8
    let consumes : Bool := match sub.minLen with
      | some k => k > 0
      | none => false
    match min, max with
    | 0, some 1 => n + choice + stateBytes
    | 0, none => if consumes then n + choice else n + 2 * choice + stateBytes
    | k, none => k * n + choice
    | k, some m =>
      if k == m then k * n
      else (if k == 0 then stateBytes else k * n) + stateBytes + (m - k) * (choice + n)

/-- The most bytes an automaton may be estimated to take: ten mebibytes. -/
def sizeLimit : Nat := 10 * 1024 * 1024

end ConceptQuery.Regex
