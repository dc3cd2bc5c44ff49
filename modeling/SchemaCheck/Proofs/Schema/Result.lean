import SchemaCheck.Schema.Compile

namespace SchemaCheck.Schema

theorem bind_eq_ok {ε α β : Type} {r : Except ε α} {k : α → Except ε β} {b : β}
    (h : r >>= k = .ok b) : ∃ a, r = .ok a ∧ k a = .ok b := by
  cases r with
  | error e => cases h
  | ok a => exact ⟨a, rfl, h⟩

theorem map_eq_ok {ε α β : Type} {r : Except ε α} {f : α → β} {b : β} (h : r.map f = .ok b) :
    ∃ a, r = .ok a ∧ f a = b := by
  cases r with
  | error e => cases h
  | ok a => exact ⟨a, rfl, Except.ok.inj h⟩

theorem malformedAt_eq_ok {α : Type} {path : String} {r : Except Complaint α} {a : α}
    (h : malformedAt path r = .ok a) : r = .ok a := by
  cases r with
  | error e => cases h
  | ok b =>
      cases h
      rfl

/-- The results that a compilation can have satisfy `P`. -/
def Produces {α : Type} (P : α → Prop) (r : Except Error α) : Prop := ∀ a, r = .ok a → P a

namespace Produces

variable {α β : Type} {P : α → Prop} {Q : β → Prop}

theorem ok {a : α} (h : P a) : Produces P (.ok a) := by
  rintro _ ⟨⟩
  exact h

theorem error {e : Error} : Produces P (.error e) := by
  rintro _ ⟨⟩

theorem bind {r : Except Error α} {k : α → Except Error β} (hr : Produces P r)
    (hk : ∀ a, P a → Produces Q (k a)) : Produces Q (r >>= k) := by
  intro b hb
  obtain ⟨a, ha, hb⟩ := bind_eq_ok hb
  exact hk a (hr a ha) b hb

theorem map {r : Except Error α} {f : α → β} (hr : Produces P r) (hf : ∀ a, P a → Q (f a)) :
    Produces Q (r.map f) := by
  intro b hb
  obtain ⟨a, ha, rfl⟩ := map_eq_ok hb
  exact hf a (hr a ha)

theorem imp {P P' : α → Prop} {r : Except Error α} (hr : Produces P r) (h : ∀ a, P a → P' a) :
    Produces P' r := fun a ha => h a (hr a ha)

theorem trivial {r : Except Error α} : Produces (fun _ => True) r := fun _ _ => True.intro

end Produces

def ErrorsIn (Q : Error → Prop) {α : Type} (r : Except Error α) : Prop := ∀ e, r = .error e → Q e

theorem ErrorsIn.bind {Q : Error → Prop} {α β : Type} {r : Except Error α}
    {k : α → Except Error β} (h : ErrorsIn Q r) (hk : ∀ a, r = .ok a → ErrorsIn Q (k a)) :
    ErrorsIn Q (r >>= k) := by
  cases r with
  | error e =>
      rintro _ ⟨⟩
      exact h e rfl
  | ok a => exact hk a rfl

end SchemaCheck.Schema
