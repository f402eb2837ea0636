import FormCapture.Proofs.Host.Steps

/-! # Calls and their values

A call can be told from the name and the values that a script passes, and they from the call
(`Call.ofValues_eq_ok_iff`), so a step makes a call exactly if it is the step of that call
(`Host.Step.call?_eq_some_iff`).

Values that a function does not take are refused (`Call.onlyRefuses_ofValues`): the error is one of the
three kinds of `Error.IsRefusal`. -/

namespace FormCapture

theorem Native.ofName?_eq_some_iff {name : Text} {f : Native} :
    ofName? name = some f ↔ name = f.name.toList := by
  constructor
  · intro h
    have hname := List.find?_some h
    exact (of_decide_eq_true hname).symm
  · rintro rfl
    exact ofName?_name f

/-! ### Calls and values -/

namespace Call

def native : Call → Native
  | openStream _ => .openStream
  | closeStream _ => .closeStream
  | readByte _ => .readByte
  | readHeaders _ => .readHeaders
  | readPost _ _ => .readPost
  | readMime _ _ _ => .readMime

/-- The values that a script passes for a call. -/
def values : Call → List Value
  | openStream fd => [.int fd]
  | closeStream n | readByte n | readHeaders n => [.stream n]
  | readPost n size => [.stream n, .int size]
  | readMime n size boundary => [.stream n, .int size, .text boundary]

theorem ofValues_values (c : Call) : ofValues c.native c.values = .ok c := by
  cases c <;> rfl

theorem handle_eq_ok {index n : Nat} {v : Value} (h : handle index v = .ok n) : v = .stream n := by
  unfold handle at h
  split at h
  · cases h
    rfl
  · cases h

theorem size_eq_ok {index n : Nat} {v : Value} (h : size index v = .ok n) : v = .int n := by
  unfold size at h
  split at h
  · cases h
    rfl
  · cases h

theorem boundary_eq_ok {t : Text} {v : Value} (h : boundary v = .ok t) : v = .text t := by
  unfold boundary at h
  split at h
  · cases h
    rfl
  · cases h

theorem descriptor_eq_ok {fd : Int} {v : Value} (h : descriptor v = .ok fd) : v = .int fd := by
  unfold descriptor at h
  split at h
  · cases h
    rfl
  · cases h

theorem bind_eq_ok {α β : Type} {x : Except Error α} {f : α → Except Error β} {b : β} :
    (x >>= f) = .ok b ↔ ∃ a, x = .ok a ∧ f a = .ok b := by
  cases x with
  | error e => simp [bind, Except.bind]
  | ok a => simp [bind, Except.bind]

/-- A call is made out from its own values only. -/
theorem ofValues_eq_ok_iff {f : Native} {vs : List Value} {c : Call} :
    ofValues f vs = .ok c ↔ f = c.native ∧ vs = c.values := by
  constructor
  · intro h
    unfold ofValues at h
    split at h
    · obtain ⟨fd, hfd, h⟩ := bind_eq_ok.mp h
      cases h
      exact ⟨rfl, by rw [descriptor_eq_ok hfd]; rfl⟩
    · obtain ⟨n, hn, h⟩ := bind_eq_ok.mp h
      cases h
      exact ⟨rfl, by rw [handle_eq_ok hn]; rfl⟩
    · obtain ⟨n, hn, h⟩ := bind_eq_ok.mp h
      cases h
      exact ⟨rfl, by rw [handle_eq_ok hn]; rfl⟩
    · obtain ⟨n, hn, h⟩ := bind_eq_ok.mp h
      cases h
      exact ⟨rfl, by rw [handle_eq_ok hn]; rfl⟩
    · obtain ⟨size, hsize, h⟩ := bind_eq_ok.mp h
      obtain ⟨n, hn, h⟩ := bind_eq_ok.mp h
      cases h
      exact ⟨rfl, by rw [handle_eq_ok hn, size_eq_ok hsize]; rfl⟩
    · obtain ⟨size, hsize, h⟩ := bind_eq_ok.mp h
      obtain ⟨t, ht, h⟩ := bind_eq_ok.mp h
      obtain ⟨n, hn, h⟩ := bind_eq_ok.mp h
      cases h
      exact ⟨rfl, by rw [handle_eq_ok hn, size_eq_ok hsize, boundary_eq_ok ht]; rfl⟩
    · cases h
  · rintro ⟨rfl, rfl⟩
    exact ofValues_values c

end Call

namespace Host

theorem call_values (h : Host) (c : Call) : h.call c.native.name.toList c.values = h.perform c := by
  simp only [call, Native.ofName?_name, Call.ofValues_values]

theorem Step.call?_eq_some_iff {s : Step} {c : Call} :
    s.call? = some c ↔ s = .call c.native.name.toList c.values := by
  constructor
  · intro h
    cases s with
    | call name vs =>
      obtain ⟨f, hf, hvalues⟩ := Option.bind_eq_some_iff.mp h
      cases hv : Call.ofValues f vs with
      | error e =>
        rw [hv] at hvalues
        cases hvalues
      | ok c' =>
        rw [hv] at hvalues
        cases hvalues
        obtain ⟨rfl, rfl⟩ := Call.ofValues_eq_ok_iff.mp hv
        rw [Native.ofName?_eq_some_iff.mp hf]
    | _ => cases h
  · rintro rfl
    rw [call?, Native.ofName?_name, Option.bind_some, Call.ofValues_values]
    rfl

end Host

/-! ### Refusals -/

/-- The errors of calls that are refused. -/
def Error.IsRefusal : Error → Prop
  | unknownFunction _ | invalidArgument _ | invalidBoundary _ => True
  | _ => False

/-- There is no error but those of refusals. -/
def OnlyRefuses {α : Type} (x : Except Error α) : Prop := ∀ e, x = .error e → e.IsRefusal

theorem onlyRefuses_ok {α : Type} (a : α) : OnlyRefuses (.ok a) := fun _ h => nomatch h

theorem onlyRefuses_error {α : Type} {e : Error} (he : e.IsRefusal) :
    OnlyRefuses (.error e : Except Error α) := by
  rintro _ ⟨⟩
  exact he

theorem OnlyRefuses.bind {α β : Type} {x : Except Error α} (hx : OnlyRefuses x)
    {f : α → Except Error β} (hf : ∀ a, OnlyRefuses (f a)) : OnlyRefuses (x >>= f) := by
  cases x with
  | error e => exact onlyRefuses_error (hx e rfl)
  | ok a => exact hf a

namespace Call

theorem onlyRefuses_handle (index : Nat) (v : Value) : OnlyRefuses (handle index v) := by
  unfold handle
  split
  · exact onlyRefuses_ok _
  · exact onlyRefuses_error trivial

theorem onlyRefuses_size (index : Nat) (v : Value) : OnlyRefuses (size index v) := by
  unfold size
  split
  · exact onlyRefuses_ok _
  · exact onlyRefuses_error trivial

theorem onlyRefuses_boundary (v : Value) : OnlyRefuses (boundary v) := by
  unfold boundary
  split
  · exact onlyRefuses_ok _
  · exact onlyRefuses_error trivial

theorem onlyRefuses_descriptor (v : Value) : OnlyRefuses (descriptor v) := by
  unfold descriptor
  split
  · exact onlyRefuses_ok _
  · exact onlyRefuses_error trivial

/-- Values that a function does not take are refused. -/
theorem onlyRefuses_ofValues (f : Native) (vs : List Value) : OnlyRefuses (ofValues f vs) := by
  unfold ofValues
  split
  · exact (onlyRefuses_descriptor _).bind fun _ => onlyRefuses_ok _
  · exact (onlyRefuses_handle 0 _).bind fun _ => onlyRefuses_ok _
  · exact (onlyRefuses_handle 0 _).bind fun _ => onlyRefuses_ok _
  · exact (onlyRefuses_handle 0 _).bind fun _ => onlyRefuses_ok _
  · exact (onlyRefuses_size 1 _).bind fun _ => (onlyRefuses_handle 0 _).bind fun _ => onlyRefuses_ok _
  · exact (onlyRefuses_size 1 _).bind fun _ => (onlyRefuses_boundary _).bind fun _ =>
      (onlyRefuses_handle 0 _).bind fun _ => onlyRefuses_ok _
  · exact onlyRefuses_error trivial

end Call

end FormCapture
