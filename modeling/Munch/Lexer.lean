import Munch.Rulebook
import Munch.Transcript

/-!
# Maximal munch

A **lexer** finds tokens in text that arrives bit by bit. From a position it probes ever longer
prefixes and stops at the first one that no rule matches; the longest prefix before it is a token. A
prefix that reaches the end of the text so far may still grow, and is kept **pending**.

Every prefix of the pending text is known to match, so the lexer goes on where it last stopped. A
longer match behind a prefix that no rule matches is never found.
-/

namespace Munch

namespace Rulebook

/-- How far prefixes match: `n` characters, and one more for each character of the rest after which
the probe accepts. -/
def reachFrom (p : Probe) (n : Nat) : List Char → Nat
  | [] => n
  | c :: cs =>
    let p := p.push c
    if p.accepts then reachFrom p (n + 1) cs else n

/-- The length of the longest run of prefixes of the text that each match some rule. The first
`known` characters are taken to match. -/
def reach (b : Rulebook) (text : List Char) (known : Nat) : Nat :=
  reachFrom (b.patterns.probe (text.take known)) known (text.drop known)

/-- Resolves a text from its start for as long as no later text can change the outcome, and gives
back the text that may still grow. The first `known` characters are taken to match. -/
def resolve (b : Rulebook) (known : Nat) (text : List Char) (out : Transcript) :
    List Char × Transcript :=
  match text with
  | [] => ([], out)
  | c :: cs =>
    let n := b.reach (c :: cs) known
    if n = 0 then b.resolve 0 cs (out.addUnknown (.ofList [c]))
    else if n = cs.length + 1 then (c :: cs, out)
    else
      let token := (c :: cs).take n
      let out :=
        match b.winner? token with
        | some r => out.addMatch (.ofList token) r
        | none => out
      b.resolve 0 ((c :: cs).drop n) out
termination_by text.length
decreasing_by all_goals (simp only [List.length_cons, List.length_drop]; omega)

end Rulebook

/-- The state of one run: the text that is pending. -/
structure Lexer where
  pending : List Char := []
deriving Repr

namespace Lexer

/-- Takes in more text. -/
def read (b : Rulebook) (l : Lexer) (text : List Char) (out : Transcript) : Lexer × Transcript :=
  let (pending, out) := b.resolve l.pending.length (l.pending ++ text) out
  ({ pending }, out)

/-- Forces out the pending text as a token; it is given up if no rule matches it. -/
def flush (b : Rulebook) (l : Lexer) (out : Transcript) : Lexer × Transcript :=
  match l.pending with
  | [] => (l, out)
  | pending =>
    match b.winner? pending with
    | some r => ({}, out.addMatch (.ofList pending) r)
    | none => ({}, out.addDropped (.ofList pending))

end Lexer

end Munch
