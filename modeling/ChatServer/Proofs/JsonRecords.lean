import ChatServer.Json.Codec
import ChatServer.Store.Error

/-!
# Records read from values

A record is taken from the members of an object, each into the slot of its key.
What a slot holds was read from a member of that name.

* `Fields.filled_foldlM`: what the slots hold after all members.
-/
namespace ChatServer.Json

open Store (bind_eq_ok map_eq_ok)

theorem ofString_eq_ok {α : Type} {expected : String} {toText : α → String}
    {ofText : String → Except Mismatch α} {v : Value} {x : α}
    (h : (Codec.ofString expected toText ofText).ofValue v = .ok x) :
    ∃ s, v = .string s ∧ ofText s = .ok x := by
  cases v with
  | string s => exact ⟨s, rfl, h⟩
  | null | bool | number | array | object => cases h

namespace Fields

section
variable {α : Type} {ts : List Type} {field : Field α} {rest : Fields ts} {name : String}

theorem takeMember_own (h : field.name = name) (v : Value) (slots : Slots ts) :
    (cons field rest).takeMember name v ((none, slots) : Slots (α :: ts)) =
      (field.codec.ofValue v).map fun x => ((some x, slots) : Slots (α :: ts)) := by
  refine (if_pos h).trans ?_
  cases field.codec.ofValue v <;> rfl

theorem takeMember_taken (h : field.name = name) (v : Value) (x : α) (slots : Slots ts) :
    (cons field rest).takeMember name v ((some x, slots) : Slots (α :: ts)) =
      .error (.duplicateField name) :=
  if_pos h

theorem takeMember_other (h : field.name ≠ name) (v : Value) (slot : Option α) (slots : Slots ts) :
    (cons field rest).takeMember name v ((slot, slots) : Slots (α :: ts)) =
      (rest.takeMember name v slots).map fun slots => ((slot, slots) : Slots (α :: ts)) := by
  refine (if_neg h).trans ?_
  cases rest.takeMember name v slots <;> rfl

end

/-- Each slot that is filled holds what a member with the name of its field
stands for. -/
def Filled (members : List (String × Value)) : {ts : List Type} → Fields ts → Slots ts → Prop
  | _, .nil, _ => True
  | _, .cons field rest, (slot, slots) =>
    (∀ x, slot = some x → ∃ v, (field.name, v) ∈ members ∧ field.codec.ofValue v = .ok x) ∧
      rest.Filled members slots

variable {ts : List Type} {fields : Fields ts} {all : List (String × Value)}

theorem filled_emptySlots : fields.Filled all fields.emptySlots := by
  induction fields with
  | nil => trivial
  | cons field rest ih => exact ⟨fun _ h => (by cases h), ih⟩

theorem Filled.takeMember {name : String} {v : Value} (hv : (name, v) ∈ all)
    {slots slots' : Slots ts}
    (h : fields.Filled all slots) (ht : fields.takeMember name v slots = .ok slots') :
    fields.Filled all slots' := by
  induction fields with
  | nil => trivial
  | cons field rest ih =>
    obtain ⟨slot, slots⟩ := slots
    by_cases hname : field.name = name
    · cases slot with
      | some x => cases (takeMember_taken hname v x slots).symm.trans ht
      | none =>
        obtain ⟨x, hx, rfl⟩ := map_eq_ok.1 ((takeMember_own hname v slots).symm.trans ht)
        exact ⟨fun y hy => ⟨v, hname ▸ hv, by rw [hx, Option.some.inj hy]⟩, h.2⟩
    · obtain ⟨slots₁, hslots, rfl⟩ :=
        map_eq_ok.1 ((takeMember_other hname v slot slots).symm.trans ht)
      exact ⟨h.1, ih h.2 hslots⟩

/-- Members are taken one after the other, and the slots hold what they stand
for. -/
theorem filled_foldlM {members : List (String × Value)} (hin : ∀ m ∈ members, m ∈ all)
    {slots slots' : Slots ts} (h : fields.Filled all slots)
    (ht : members.foldlM (fun slots (k, v) => fields.takeMember k v slots) slots = .ok slots') :
    fields.Filled all slots' := by
  induction members generalizing slots with
  | nil =>
    cases ht
    exact h
  | cons m members ih =>
    rw [List.foldlM_cons] at ht
    obtain ⟨slots₁, hslots, hrest⟩ := bind_eq_ok.1 ht
    exact ih (fun m' hm' => hin m' (List.mem_cons_of_mem m hm'))
      (h.takeMember (hin m List.mem_cons_self) hslots) hrest

end Fields
end ChatServer.Json

