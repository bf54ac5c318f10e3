import GamepadInput.Backend

/-!
# A backend with callbacks

What a backend delivers is heard by the callbacks, and behind them by a further listener, such as
the frame state.  The calls that deliver return that listener as it is then, and the callbacks that
were called.
-/

namespace GamepadInput

structure Gamepads (β τ : Type) where
  backend : β
  callbacks : Callbacks τ
  initialized : Bool
  /-- Input is being delivered. -/
  inFlight : Bool
  deriving DecidableEq, Repr

namespace Gamepads

variable {β τ σ : Type} [Backend β] [Listener τ σ]

def ofBackend (backend : β) : Gamepads β τ := ⟨backend, .none, false, false⟩

def devices (pads : Gamepads β τ) : List Device := Backend.devices pads.backend

def deviceAt? (pads : Gamepads β τ) (index : Nat) : Option Device := pads.devices[index]?

/-- A call of the backend with the callbacks and the listener as its listeners. -/
def deliver (pads : Gamepads β τ) (listener : σ) (call : β → Except Overflow (β × List Notice)) :
    Except Overflow (Gamepads β τ × σ × Called τ) := do
  let (backend, notices) ← call pads.backend
  let fan : Fanout (Callbacks τ) σ := ⟨pads.callbacks, listener⟩
  let (fan, called) := Listener.hearAll fan notices
  pure ({ pads with backend, callbacks := fan.first }, fan.second, called)

def detectWith (pads : Gamepads β τ) (listener : σ) :
    Except Overflow (Gamepads β τ × σ × Called τ) :=
  pads.deliver listener Backend.detect

/-- Does nothing while input is being delivered. -/
def processWith (pads : Gamepads β τ) (listener : σ) :
    Except Overflow (Gamepads β τ × σ × Called τ) := do
  if pads.inFlight then return (pads, listener, [])
  let (pads, listener, called) ← { pads with inFlight := true }.deliver listener Backend.process
  pure ({ pads with inFlight := false }, listener, called)

/-- Starts the backend and announces the devices already there.  A second start does nothing. -/
def startWith (pads : Gamepads β τ) (listener : σ) :
    Except StartError (Gamepads β τ × σ × Called τ) := do
  if pads.initialized then return (pads, listener, [])
  let backend ← Backend.start pads.backend
  ({ pads with backend, initialized := true }.detectWith listener).mapError .overflow

def detect (pads : Gamepads β τ) : Except Overflow (Gamepads β τ × Called τ) := do
  let (pads, _, called) ← pads.detectWith (⟨⟩ : NoListener)
  pure (pads, called)

def process (pads : Gamepads β τ) : Except Overflow (Gamepads β τ × Called τ) := do
  let (pads, _, called) ← pads.processWith (⟨⟩ : NoListener)
  pure (pads, called)

def start (pads : Gamepads β τ) : Except StartError (Gamepads β τ × Called τ) := do
  let (pads, _, called) ← pads.startWith (⟨⟩ : NoListener)
  pure (pads, called)

/-- Lets go of every device without a notice. -/
def shutdown (pads : Gamepads β τ) : Gamepads β τ :=
  { pads with backend := Backend.shutdown pads.backend, initialized := false }

/-- Registers or clears the callbacks of several kinds. -/
def register (pads : Gamepads β τ) (callback : Option τ) (kinds : List NoticeKind) :
    Gamepads β τ :=
  { pads with callbacks := pads.callbacks.setAll callback kinds }

end Gamepads

end GamepadInput
