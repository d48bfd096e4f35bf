import DocQuery.Options.Basic

/-!
# Reading single options

An option is read by the first of its names that is present. What is read is the value for absent
options or what the reader makes of a value.
-/

namespace DocQuery.Options

/-- The first name that is present counts. -/
theorem first?_of_get? {o : Options} {name : String} {param : Param}
    (h : o.get? name = some param) (names : List String) :
    o.first? (name :: names) = some (name, param) := by
  rw [first?, List.findSome?_cons, h]
  rfl

/-- A name that is not present does not count. -/
theorem first?_of_absent {o : Options} {name : String} (h : o.get? name = none)
    (names : List String) : o.first? (name :: names) = o.first? names := by
  rw [first?, List.findSome?_cons, h]
  rfl

/-- An option that is absent has the value for absent ones. -/
theorem readFirst_of_absent {α : Type} {o : Options} {names : List String} (absent : α)
    (read : String → Param → Except OptionError α) (h : ∀ name ∈ names, o.get? name = none) :
    o.readFirst names absent read = .ok absent := by
  have hfirst : o.first? names = none := by
    unfold first?
    rw [List.findSome?_eq_none_iff]
    intro name hname
    rw [h name hname, Option.map_none]
  rw [readFirst, hfirst]

/-- An option that is there is read. -/
theorem read_of_get? {α : Type} {o : Options} {name : String} {param : Param}
    (h : o.get? name = some param) (absent : α) (read : String → Param → Except OptionError α) :
    o.read name absent read = read name param := by
  rw [Options.read, readFirst, first?_of_get? h]

/-- An option that is read is absent or has a value that is accepted. -/
theorem readFirst_eq_ok {α : Type} {o : Options} {names : List String} {absent a : α}
    {read : String → Param → Except OptionError α}
    (h : o.readFirst names absent read = .ok a) :
    a = absent ∨ ∃ name param, read name param = .ok a := by
  unfold readFirst at h
  split at h
  · exact .inr ⟨_, _, h⟩
  · exact .inl (Except.ok.inj h).symm

/-- A value is accepted exactly if the reader takes it. -/
theorem accept_eq_ok_iff {α : Type} {reader : Param → Option α} {name : String} {param : Param}
    {a : α} : accept reader name param = .ok a ↔ reader param = some a := by
  unfold accept
  split
  · simp [*]
  · simp [*, invalid]

end DocQuery.Options
