import DocQuery.Regex.Expression

/-!
# Searching for literals

The texts that what an expression reads can start with, as far as they are few. If they are all
that it reads, or come before anything else it would rather not read, the expression is found by
looking for these texts and needs no automaton.
-/

namespace DocQuery.Regex

/-- A text that what an expression reads can start with. -/
structure Lead where
  bytes : List UInt8
  /-- Whether the text is all that is read then. -/
  exact : Bool
  deriving DecidableEq, Repr

/-- The texts that what an expression reads can start with, those it prefers first. There is no
list if they are too many. -/
abbrev Leads := Option (List Lead)

namespace Leads

/-- The number of leads in a list. -/
def maxCount : Nat := 250

/-- The number of bytes of a lead. -/
def maxLength : Nat := 100

/-- The number of bytes that leads are cut down to if they are too many. -/
def shortLength : Nat := 4

/-- The number of characters of a set that leads are listed for. -/
def maxSetSize : Nat := 10

/-- The number of turns of a repetition that leads go through. -/
def maxTurns : Nat := 10

/-- The lead of an expression that reads a text. -/
def exactly (bytes : List UInt8) : Lead := ⟨bytes, true⟩

/-- Leads that are not all that is read. -/
def inexact (leads : List Lead) : List Lead := leads.map fun lead => { lead with exact := false }

/-- The first bytes of leads. -/
def cut (length : Nat) (leads : List Lead) : List Lead :=
  leads.map fun lead =>
    if lead.bytes.length ≤ length then lead else ⟨lead.bytes.take length, false⟩

/-- Joins leads next to each other with the same bytes. -/
def join : List Lead → List Lead
  | [] => []
  | lead :: rest =>
    match join rest with
    | [] => [lead]
    | next :: more =>
      if lead.bytes = next.bytes then ⟨lead.bytes, lead.exact && next.exact⟩ :: more
      else lead :: next :: more

/-- Whether nothing can be added behind leads. -/
def areFinal : Leads → Bool
  | none => true
  | some leads => leads.all fun lead => !lead.exact

/-- The leads of one of two expressions. -/
def either (first second : List Lead) : Leads :=
  if first.length + second.length ≤ maxCount then some (join (first ++ second))
  else
    let first := join (cut shortLength first)
    let second := join (cut shortLength second)
    if first.length + second.length ≤ maxCount then some (join (first ++ second)) else none

/-- The leads of one of two expressions, if there are any of both. -/
def orElse (first second : Leads) : Leads := do either (← first) (← second)

/-- The leads of two expressions one after another. -/
def andThen (first second : Leads) : Leads := do
  let first ← first
  match second.filter fun second => first.length * second.length ≤ maxCount with
  | none => if first.any (·.bytes.isEmpty) then none else some (inexact first)
  | some second =>
    let joined := first.flatMap fun lead =>
      if lead.exact then second.map fun next => ⟨lead.bytes ++ next.bytes, next.exact⟩ else [lead]
    some (cut maxLength (join joined))

/-- The leads of an expression a number of times in a row, given those of a turn and those of the
turns before. -/
def times (turn : Leads) : Nat → Leads → Leads
  | 0, before => before
  | n + 1, before => if areFinal before then before else times turn n (before.andThen turn)

/-- The leads of a repetition, given those of a turn. -/
def repeated (least : Nat) (most : Option Nat) (reluctant : Bool) (turn : Leads) : Leads :=
  let nothing : Leads := some [exactly []]
  if least = 0 then
    let turn := if most = some 1 then turn else turn.map inexact
    if reluctant then nothing.orElse turn else turn.orElse nothing
  else
    let leads := turn.times (min least maxTurns) nothing
    if most = some least ∧ least ≤ maxTurns then leads else leads.map inexact

/-- The leads of a set of characters. -/
def ofSet (chars : CharSet) : Leads :=
  let codes := chars.ranges.flatMap fun r => List.range' r.first (min (r.last + 1 - r.first) 11)
  if maxSetSize < codes.length then none
  else some (codes.map fun code => exactly (Expression.utf8 [Char.ofNat code]))

/-- The leads without those that start with an earlier one, which is preferred. -/
def preferred : List Lead → List Lead
  | [] => []
  | lead :: rest =>
    lead :: (preferred rest).filter fun other => !lead.bytes.isPrefixOf other.bytes

/-- The longest common start of two texts. -/
def commonStart : List UInt8 → List UInt8 → List UInt8
  | a :: as, b :: bs => if a = b then a :: commonStart as bs else []
  | _, _ => []

/-- Whether a byte is found in many texts: as one of these ASCII characters or as part of another
character. -/
def isCommon (byte : UInt8) : Bool :=
  0x80 ≤ byte || ("\n\r (),-./0129:_abcdefghilmnoprstuvxy|".toList.any (·.toNat = byte.toNat))

/-- The leads to look for. One byte is looked for if all leads start with it and it is not common,
and a common start if it is long enough to be worth it. -/
def lookedFor (leads : List Lead) : List Lead :=
  match preferred leads with
  | [] => []
  | first :: rest =>
    let start := rest.foldl (fun start lead => commonStart start lead.bytes) first.bytes
    let all := first :: rest
    let isFast := all.all (·.exact) && all.length ≤ 16
    if 1 < leads.length && start.length ≤ 3 && start.head?.any (!isCommon ·) then join (cut 1 all)
    else if 4 < start.length || 1 < start.length && !isFast then join (cut start.length all)
    else all

end Leads

namespace Expression

mutual

/-- The texts that what an expression reads can start with. -/
def leads : Expression → Leads
  | .empty => some [Leads.exactly []]
  | .literal chars =>
    some (Leads.cut Leads.maxLength [Leads.exactly (utf8 chars)])
  | .set chars _ => Leads.ofSet chars
  | .place _ => some [Leads.exactly []]
  | .seq parts => leadsOfAll (some [Leads.exactly []]) parts
  | .alt branches => leadsOfAny (some []) branches
  | .kept inner => inner.leads
  | .times least most reluctant inner => inner.leads.repeated least most reluctant

/-- The leads of several expressions one after another, given those of what is before them. -/
def leadsOfAll (before : Leads) : List Expression → Leads
  | [] => before
  | e :: rest =>
    if before.areFinal then before else leadsOfAll (before.andThen e.leads) rest

/-- The leads of one of several expressions, given those of the ones before. -/
def leadsOfAny (before : Leads) : List Expression → Leads
  | [] => before
  | e :: rest => if before.isNone then none else leadsOfAny (before.orElse e.leads) rest

end

mutual

/-- Whether an expression only reads: it keeps nothing and says nothing about places. -/
def isPlain : Expression → Bool
  | .empty => true
  | .literal _ => true
  | .set _ _ => true
  | .place _ => false
  | .seq parts => allArePlain parts
  | .alt branches => allArePlain branches
  | .kept _ => false
  | .times _ _ _ inner => inner.isPlain

/-- Whether several expressions only read. -/
def allArePlain : List Expression → Bool
  | [] => true
  | e :: rest => e.isPlain && allArePlain rest

end

/-- The number of literals from which on a choice between them is searched for without an
automaton. -/
def manyLiterals : Nat := 3000

/-- Whether an expression is a choice between many literals. -/
def isLongChoice : Expression → Bool
  | .alt branches => manyLiterals ≤ branches.length && (branches.mapM literal?).isSome
  | _ => false

/-- Whether an expression is found by its leads alone. -/
def isFoundByLeads (e : Expression) : Bool :=
  match e.leads.map Leads.join with
  | some leads =>
    !leads.isEmpty && !leads.any (·.bytes.isEmpty) && (Leads.lookedFor leads).all (·.exact)
  | none => false

/-- Whether an expression is found by looking for literals. -/
def isLiteralSearch (e : Expression) : Bool := e.isPlain && (e.isFoundByLeads || e.isLongChoice)

end Expression

end DocQuery.Regex
