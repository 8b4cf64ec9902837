import ImportScan.Pattern

/-!
# The room that a pattern takes

A short text can describe a pattern that is huge once its repetitions are written out.  The room of a
pattern is an estimate of the bytes that it takes then; what takes too much is not a regular expression.

## Main definitions

* `CharSet.room`, `Pattern.room` — the estimates.
* `roomLimit` — how much a regular expression may take.
-/

namespace ImportScan

/-- The bytes of one step of a pattern. -/
def stepRoom : Nat := 32

/-- The bytes for one character of a set.  What lies beyond ASCII takes steps for every byte of the
encoding, and many of them when a property decides. -/
def CharSet.room : CharSet → Nat
  | none => stepRoom
  | range _ last => if last.toNat < 0x80 then 2 * stepRoom + 8 else 600
  | digits => 6000
  | words => 50000
  | spaces => 600
  | property _ => 50000
  | complement s => max 600 s.room
  | union s t => max s.room t.room + 8
  | combine _ s t => max s.room t.room
  | bracketed negated s => if negated then max 600 s.room else s.room

namespace Pattern

/-- Whether the pattern describes the empty text at most. -/
def isHollow : Pattern → Bool
  | empty => true
  | one .. => false
  | edge _ => true
  | seq p q => p.isHollow && q.isHollow
  | alt p q => p.isHollow && q.isHollow
  | times p _ most => p.isHollow || most == some 0

/-- The bytes that a pattern takes.  Repetitions are written out, each one that may be left out with a
step for the choice; the empty text is not repeated. -/
def room : Pattern → Nat
  | empty => stepRoom
  | one .exact (.range first last) =>
    if first = last then stepRoom * first.utf8Size else CharSet.room (.range first last)
  | one _ s => s.room
  | edge _ => stepRoom
  | seq p q => p.room + q.room
  | alt p q => p.room + q.room + 2 * stepRoom
  | times p least most =>
    if p.isHollow then p.room
    else
      match most with
      | none => max 1 least * p.room + 2 * stepRoom
      | some most => least * p.room + (most - least) * (p.room + stepRoom) + stepRoom

end Pattern

/-- The bytes that a regular expression may take. -/
def roomLimit : Nat := 10 * 1024 * 1024

end ImportScan
