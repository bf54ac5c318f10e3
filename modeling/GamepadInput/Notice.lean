import GamepadInput.Event

/-!
# Listening to devices

A dispatched event reaches a listener as a notice, which carries the device record with the event
applied.  A listener has one method for each kind of notice.  The callbacks of a host are such a
listener: at most one is registered for each kind, and it is called with the arguments of the
method.  Two listeners hear the same notices through a fan-out.

A callback is known here by a tag of the host's choice, and what it does is left to the host.  A
method returns what became of the listener, and the callbacks that were called.
-/

namespace GamepadInput

/-- One call of a listener: the device at the time of the call, and what happened to it.  The time
that goes with a button or an axis is left out. -/
structure Notice where
  device : Device
  kind : EventKind
  deriving DecidableEq, Repr

/-- Kinds of notices that a host can subscribe to. -/
inductive NoticeKind where
  | attach
  | remove
  | buttonDown
  | buttonUp
  | axisMove
  deriving DecidableEq, Repr

namespace NoticeKind

def all : List NoticeKind := [.attach, .remove, .buttonDown, .buttonUp, .axisMove]

end NoticeKind

/-- The kind of notice that an event makes. -/
def EventKind.noticeKind : EventKind → NoticeKind
  | .attached => .attach
  | .removed => .remove
  | .button _ true => .buttonDown
  | .button _ false => .buttonUp
  | .axis _ => .axisMove

/-- At most one callback for each kind of notice. -/
structure Callbacks (τ : Type) where
  attach : Option τ
  remove : Option τ
  buttonDown : Option τ
  buttonUp : Option τ
  axisMove : Option τ
  deriving DecidableEq, Repr

namespace Callbacks

variable {τ : Type}

def none : Callbacks τ := ⟨.none, .none, .none, .none, .none⟩

/-- The same callback for every kind. -/
def all (tag : τ) : Callbacks τ := ⟨tag, tag, tag, tag, tag⟩

def get? (callbacks : Callbacks τ) : NoticeKind → Option τ
  | .attach => callbacks.attach
  | .remove => callbacks.remove
  | .buttonDown => callbacks.buttonDown
  | .buttonUp => callbacks.buttonUp
  | .axisMove => callbacks.axisMove

/-- Registers or clears the callback of one kind; the previous one is gone. -/
def set (callbacks : Callbacks τ) (callback : Option τ) : NoticeKind → Callbacks τ
  | .attach => { callbacks with attach := callback }
  | .remove => { callbacks with remove := callback }
  | .buttonDown => { callbacks with buttonDown := callback }
  | .buttonUp => { callbacks with buttonUp := callback }
  | .axisMove => { callbacks with axisMove := callback }

/-- Registers or clears the callbacks of several kinds. -/
def setAll (callbacks : Callbacks τ) (callback : Option τ) (kinds : List NoticeKind) :
    Callbacks τ :=
  kinds.foldl (fun callbacks kind => callbacks.set callback kind) callbacks

def isEmpty (callbacks : Callbacks τ) : Bool :=
  NoticeKind.all.all fun kind => (callbacks.get? kind).isNone

/-- Diagnostic text: which kinds have a callback. -/
def summary (callbacks : Callbacks τ) : String :=
  let field (name : String) (callback : Option τ) : String :=
    name ++ ": " ++ (if callback.isSome then "true" else "false")
  let fields :=
    [field "attach" callbacks.attach, field "remove" callbacks.remove,
     field "button_down" callbacks.buttonDown, field "button_up" callbacks.buttonUp,
     field "axis_move" callbacks.axisMove]
  "Callbacks \x7b " ++ ", ".intercalate fields ++ " \x7d"

theorem get?_set (callbacks : Callbacks τ) (callback : Option τ) (kind other : NoticeKind) :
    (callbacks.set callback kind).get? other =
      if other = kind then callback else callbacks.get? other := by
  cases kind <;> cases other <;> rfl

end Callbacks

/-! ## Listeners -/

/-- The callbacks that were called, in order, each with what it was told. -/
abbrev Called (τ : Type) := List (τ × Notice)

/-- A call of the callback, if there is one. -/
def Called.to {τ : Type} (callback : Option τ) (notice : Notice) : Called τ :=
  (callback.map (·, notice)).toList

/-- One method for each kind of notice.  A method that is not given does nothing. -/
class Listener (τ σ : Type) where
  attached : σ → (device : Device) → σ × Called τ := fun listener _ => (listener, [])
  removed : σ → (device : Device) → σ × Called τ := fun listener _ => (listener, [])
  buttonDown : σ → (device : Device) → (button : Nat) → σ × Called τ :=
    fun listener _ _ => (listener, [])
  buttonUp : σ → (device : Device) → (button : Nat) → σ × Called τ :=
    fun listener _ _ => (listener, [])
  axisMoved : σ → (device : Device) → (axis : Nat) → (value last : Binary32) → σ × Called τ :=
    fun listener _ _ _ _ => (listener, [])

namespace Listener

variable {τ σ : Type} [Listener τ σ]

/-- A notice is a call of the method of its kind. -/
def hear (listener : σ) (notice : Notice) : σ × Called τ :=
  match notice.kind with
  | .attached => attached listener notice.device
  | .removed => removed listener notice.device
  | .button index true => buttonDown listener notice.device index
  | .button index false => buttonUp listener notice.device index
  | .axis change => axisMoved listener notice.device change.axis change.value change.last

/-- Notices in order. -/
def hearAll (listener : σ) : List Notice → σ × Called τ
  | [] => (listener, [])
  | notice :: rest =>
    let (listener, first) := hear listener notice
    let (listener, others) := hearAll listener rest
    (listener, first ++ others)

end Listener

/-- Hears nothing. -/
structure NoListener where
  deriving DecidableEq, Repr

instance {τ : Type} : Listener τ NoListener where

namespace Callbacks

variable {τ : Type}

/-- Calls the callback of each kind, if there is one. -/
instance : Listener τ (Callbacks τ) where
  attached callbacks device := (callbacks, Called.to callbacks.attach ⟨device, .attached⟩)
  removed callbacks device := (callbacks, Called.to callbacks.remove ⟨device, .removed⟩)
  buttonDown callbacks device button :=
    (callbacks, Called.to callbacks.buttonDown ⟨device, .button button true⟩)
  buttonUp callbacks device button :=
    (callbacks, Called.to callbacks.buttonUp ⟨device, .button button false⟩)
  axisMoved callbacks device axis value last :=
    (callbacks, Called.to callbacks.axisMove ⟨device, .axis ⟨axis, value, last⟩⟩)

theorem hear_eq (callbacks : Callbacks τ) (notice : Notice) :
    Listener.hear callbacks notice =
      (callbacks, Called.to (callbacks.get? notice.kind.noticeKind) notice) := by
  obtain ⟨device, kind⟩ := notice
  cases kind with
  | button index down => cases down <;> rfl
  | attached | removed | axis => rfl

/-- What notices call: each the callback that is registered for its kind. -/
def called (callbacks : Callbacks τ) (notices : List Notice) : Called τ :=
  notices.flatMap fun notice => Called.to (callbacks.get? notice.kind.noticeKind) notice

@[simp] theorem called_nil (callbacks : Callbacks τ) : callbacks.called [] = [] := rfl

@[simp] theorem called_append (callbacks : Callbacks τ) (early late : List Notice) :
    callbacks.called (early ++ late) = callbacks.called early ++ callbacks.called late :=
  List.flatMap_append

end Callbacks

/-- Two listeners of the same notices. -/
structure Fanout (σ₁ σ₂ : Type) where
  first : σ₁
  second : σ₂
  deriving DecidableEq, Repr

namespace Fanout

variable {τ σ₁ σ₂ : Type} [Listener τ σ₁] [Listener τ σ₂]

/-- Calls a method of the first listener and then one of the second. -/
def forward (fan : Fanout σ₁ σ₂) (method₁ : σ₁ → σ₁ × Called τ) (method₂ : σ₂ → σ₂ × Called τ) :
    Fanout σ₁ σ₂ × Called τ :=
  let (first, early) := method₁ fan.first
  let (second, late) := method₂ fan.second
  (⟨first, second⟩, early ++ late)

instance : Listener τ (Fanout σ₁ σ₂) where
  attached fan device := fan.forward (Listener.attached · device) (Listener.attached · device)
  removed fan device := fan.forward (Listener.removed · device) (Listener.removed · device)
  buttonDown fan device button :=
    fan.forward (Listener.buttonDown · device button) (Listener.buttonDown · device button)
  buttonUp fan device button :=
    fan.forward (Listener.buttonUp · device button) (Listener.buttonUp · device button)
  axisMoved fan device axis value last :=
    fan.forward (Listener.axisMoved · device axis value last)
      (Listener.axisMoved · device axis value last)

/-- Both hear a notice, the first one before the second. -/
theorem hear_eq (fan : Fanout σ₁ σ₂) (notice : Notice) :
    Listener.hear (τ := τ) fan notice =
      fan.forward (Listener.hear · notice) (Listener.hear · notice) := by
  obtain ⟨device, kind⟩ := notice
  cases kind with
  | button index down => cases down <;> rfl
  | attached | removed | axis => rfl

/-- Behind callbacks, a listener that calls nothing hears what it would hear alone. -/
theorem hearAll_callbacks {σ : Type} [Listener τ σ] {hear : σ → Notice → σ}
    (silent : ∀ (listener : σ) notice, Listener.hear (τ := τ) listener notice =
      (hear listener notice, []))
    (callbacks : Callbacks τ) (listener : σ) (notices : List Notice) :
    Listener.hearAll (⟨callbacks, listener⟩ : Fanout (Callbacks τ) σ) notices =
      (⟨callbacks, notices.foldl hear listener⟩, callbacks.called notices) := by
  induction notices generalizing listener with
  | nil => rfl
  | cons notice notices ih =>
    simp only [Listener.hearAll, hear_eq, forward, Callbacks.hear_eq, silent, ih, List.append_nil,
      List.foldl_cons, Callbacks.called, List.flatMap_cons]

end Fanout

end GamepadInput
