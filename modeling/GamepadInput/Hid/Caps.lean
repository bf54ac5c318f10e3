import GamepadInput.Axis.Range

/-!
# Capabilities of a HID interface

The report descriptor of an interface says which controls its input reports carry.  Button controls
and value controls are listed apart; an entry covers one usage or a run of consecutive usages.
-/

namespace GamepadInput.Hid

def genericDesktopPage : Nat := 0x01
def simulationPage : Nat := 0x02
def physicalPage : Nat := 0x0F

/-- A run of consecutive usages of one page.  It is empty if it ends before it starts. -/
structure UsageSpan where
  page : Nat
  first : Nat
  last : Nat
  deriving DecidableEq, Repr

namespace UsageSpan

def single (page usage : Nat) : UsageSpan := ⟨page, usage, usage⟩

def has (span : UsageSpan) (usage : Nat) : Bool := span.first ≤ usage && usage ≤ span.last

/-- The usages, in ascending order. -/
def usages (span : UsageSpan) : List Nat := List.range' span.first (span.last + 1 - span.first)

theorem mem_usages {span : UsageSpan} {usage : Nat} :
    usage ∈ span.usages ↔ span.first ≤ usage ∧ usage ≤ span.last := by
  simp only [usages, List.mem_range'_1]
  omega

end UsageSpan

/-- Button controls: one bit of a report for each usage. -/
structure ButtonCap where
  reportId : Nat
  /-- Collection the controls belong to; zero is the top one. -/
  link : Nat
  span : UsageSpan
  deriving DecidableEq, Repr

/-- Value controls: a number of bits of a report for each usage. -/
structure ValueCap where
  reportId : Nat
  link : Nat
  span : UsageSpan
  logicalMin : Int
  logicalMax : Int
  bitSize : Nat
  deriving DecidableEq, Repr

/-- What a request for a list of capabilities finds. -/
inductive CapsAnswer (α : Type) where
  | list (caps : List α)
  /-- The buffer is too small; so many entries are needed. -/
  | tooSmall (needed : Nat)
  | failed
  deriving DecidableEq, Repr

/-- Entries that the first request makes room for. -/
def firstCapacity : Nat := 64

/-- Asks for a list of capabilities, and once more with the room that the first answer asks for.
`request` is given the room. -/
def enumerate? {α : Type} (request : Nat → CapsAnswer α) : Option (List α) :=
  match request firstCapacity with
  | .list caps => some caps
  | .tooSmall needed =>
    if needed = 0 then none
    else
      match request needed with
      | .list caps => some caps
      | .tooSmall _ | .failed => none
  | .failed => none

/-- What a value control becomes. -/
inductive ValueRole where
  | axis
  | hat
  | ignored
  deriving DecidableEq, Repr

/-- X to wheel, the hat switch and the simulation page are the controls of a game controller. -/
def valueRole (page usage : Nat) : ValueRole :=
  if page = genericDesktopPage then
    if usage = 0x39 then .hat
    else if 0x30 ≤ usage ∧ usage ≤ 0x38 then .axis
    else .ignored
  else if page = simulationPage then .axis
  else .ignored

/-- The number whose two's complement in `bits` bits is the low end of `raw`: those bits go to the top
of a word of 32 bits and back, where the sign fills in.  A size of zero or past the word stands for
the whole word. -/
def signExtend (raw bits : Nat) : Int :=
  if bits = 0 ∨ 32 ≤ bits then (BitVec.ofNat 32 raw).toInt
  else ((BitVec.ofNat 32 raw <<< (32 - bits)).sshiftRight (32 - bits)).toInt

end GamepadInput.Hid
