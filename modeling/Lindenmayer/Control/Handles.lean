import Lindenmayer.Control.Flags

set_option autoImplicit false

/-! # Handles

Controls are reached through handles, and several handles may lead to the same control: what is
asked through one is seen through all of them, and through no others. -/

namespace Lindenmayer

/-- Some controls, and the control that each handle leads to. -/
structure Handles where
  count : Nat
  /-- The flags of each control. -/
  controls : Vector Flags count
  /-- The control behind each handle. -/
  targets : Array (Fin count)

namespace Handles

/-- One control with one handle. -/
def single : Handles := ⟨1, #v[{}], #[0]⟩

/-- The flags seen through each handle. -/
def flags (h : Handles) : List Flags := h.targets.toList.map fun target => h.controls[target]

/-- The handles after a call through handle number `i`; nothing happens if there is none. -/
def call (h : Handles) (i : Nat) (c : Call) : Handles :=
  match h.targets[i]? with
  | some target => { h with controls := h.controls.set target (h.controls[target].after c) }
  | none => h

/-- A further handle for the control behind handle number `i`, if there is one. -/
def duplicate (h : Handles) (i : Nat) : Handles :=
  match h.targets[i]? with
  | some target => { h with targets := h.targets.push target }
  | none => h

/-- A handle for a control of its own. -/
def fresh (h : Handles) : Handles where
  count := h.count + 1
  controls := h.controls.push {}
  targets := (h.targets.map Fin.castSucc).push (Fin.last h.count)

end Handles

end Lindenmayer
