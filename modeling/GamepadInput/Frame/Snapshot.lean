import GamepadInput.Binary
import GamepadInput.Key
import GamepadInput.Overflow

/-!
# Keyboard and mouse state

A snapshot is the state of keyboard and mouse at one instant.  Host events change it one by one.
Only key events and events of no other kind change the modifier mask: a mouse event carries the
host's mask, but the recorded one stays.
-/

namespace GamepadInput

/-- What the host reports. -/
inductive HostAction where
  | key (key : Key) (down : Bool)
  | button (button : MouseButton) (down : Bool)
  /-- The cursor is at this position. -/
  | cursor (x y : Int)
  /-- The wheel turned by this much. -/
  | scroll (dx dy : Binary32)
  | other
  deriving DecidableEq, Repr

/-- One keyboard or mouse event, with the modifiers held during it. -/
structure HostEvent where
  action : HostAction
  modifiers : Modifiers
  deriving DecidableEq, Repr

/-- Keyboard and mouse state at one instant. -/
structure Snapshot where
  keys : Vector Bool Key.count
  buttons : Vector Bool MouseButton.count
  modifiers : Modifiers
  cursor : Int × Int
  scroll : Binary32 × Binary32
  deriving DecidableEq, Repr

namespace Snapshot

/-- Nothing is down, and the cursor is at the origin. -/
def atRest : Snapshot where
  keys := .replicate _ false
  buttons := .replicate _ false
  modifiers := .none
  cursor := (0, 0)
  scroll := (0, 0)

/-- The key is down; a key that is not tracked never is. -/
def key (snapshot : Snapshot) (key : Key) : Bool := (snapshot.keys[key.code]?).getD false

def button (snapshot : Snapshot) (button : MouseButton) : Bool := snapshot.buttons[button.index]

/-- The state after a host event. -/
def apply (snapshot : Snapshot) (event : HostEvent) : Snapshot :=
  match event.action with
  | .key key down =>
    { snapshot with
      keys := snapshot.keys.setIfInBounds key.code down
      modifiers := event.modifiers }
  | .button button down =>
    { snapshot with buttons := snapshot.buttons.set button.index down }
  | .cursor x y => { snapshot with cursor := (x, y) }
  | .scroll dx dy =>
    { snapshot with scroll := (snapshot.scroll.1.add dx, snapshot.scroll.2.add dy) }
  | .other => { snapshot with modifiers := event.modifiers }

/-- Codes of the keys that are down, in ascending order. -/
def keysDown (snapshot : Snapshot) : List Nat :=
  (List.range Key.count).filter fun code => snapshot.key ⟨code⟩

/-- Both snapshots show the same state, wheel positions being compared as numbers. -/
def agrees (a b : Snapshot) : Bool :=
  a.keys = b.keys && a.buttons = b.buttons && a.modifiers = b.modifiers && a.cursor = b.cursor &&
    a.scroll.1.equals b.scroll.1 && a.scroll.2.equals b.scroll.2

end Snapshot

end GamepadInput
