import StunServer.Common.HResult

/-! Calls that note what they do to memory while they work on an object. Forgetting the notes
leaves the call to which they were added. -/

namespace StunServer

/-- An object, and what has been noted about the calls on it. -/
structure Watched (ε σ : Type) where
  object : σ
  events : List ε

namespace Watched

variable {ε σ τ α β : Type}

def start (object : σ) : Watched ε σ := ⟨object, []⟩

def note (event : ε) : Hr (Watched ε σ) Unit := fun w =>
  .ok () { w with events := w.events ++ [event] }

def getObject : Hr (Watched ε σ) σ := fun w => .ok w.object w

/-- A call that notes nothing. -/
def quiet (m : Hr σ α) : Hr (Watched ε σ) α := Hr.on object (fun w s => { w with object := s }) m

/-- A call on an object of its own. -/
def through (object : τ) (m : Hr (Watched ε τ) α) : Hr (Watched ε σ) α := fun w =>
  match m ⟨object, w.events⟩ with
  | .ok a w' => .ok a { w with events := w'.events }
  | .error e w' => .error e { w with events := w'.events }

/-- What becomes of an object in a call, whether or not the call succeeds. -/
def afterwards (object : τ) (m : Hr (Watched ε τ) α) : Hr (Watched ε σ) τ := fun w =>
  let w' := m.after ⟨object, w.events⟩
  .ok w'.object { w with events := w'.events }

/-- A call whose result code is looked at. -/
def attempt (m : Hr (Watched ε σ) α) : Hr (Watched ε σ) (Except HRESULT α) := fun w =>
  match m w with
  | .ok a w' => .ok (.ok a) w'
  | .error e w' => .ok (.error e) w'

/-- The second call is made if the first one fails. -/
def orElse (m m' : Hr (Watched ε σ) α) : Hr (Watched ε σ) α := fun w =>
  match m w with
  | .ok a w' => .ok a w'
  | .error _ w' => m' w'

theorem getObject_apply (w : Watched ε σ) : getObject w = .ok w.object w := rfl

theorem quiet_ok {m : Hr σ α} {w : Watched ε σ} {s : σ} {a : α} (h : m w.object = .ok a s) :
    quiet m w = .ok a { w with object := s } := Hr.on_ok h

theorem quiet_error {m : Hr σ α} {w : Watched ε σ} {s : σ} {e : HRESULT}
    (h : m w.object = .error e s) : quiet m w = .error e { w with object := s } := Hr.on_error h

theorem attempt_ok {m : Hr (Watched ε σ) α} {w w' : Watched ε σ} {a : α} (h : m w = .ok a w') :
    attempt m w = .ok (.ok a) w' := by
  rw [attempt, h]

theorem attempt_error {m : Hr (Watched ε σ) α} {w w' : Watched ε σ} {e : HRESULT}
    (h : m w = .error e w') : attempt m w = .ok (.error e) w' := by
  rw [attempt, h]

theorem through_result (object : τ) (m : Hr (Watched ε τ) α) (w : Watched ε σ) :
    (through object m).result w = m.result ⟨object, w.events⟩ := by
  rw [Hr.result, Hr.result, through]
  cases m ⟨object, w.events⟩ <;> rfl

/-! ### Forgetting what was noted -/

/-- The outcome for the object alone. -/
def forget : EStateM.Result HRESULT (Watched ε σ) α → EStateM.Result HRESULT σ α
  | .ok a w => .ok a w.object
  | .error e w => .error e w.object

/-- The call does to the object what the other one does. -/
def Forgets (m : Hr (Watched ε σ) α) (m' : Hr σ α) : Prop := ∀ w, forget (m w) = m' w.object

section Forgets

variable {m : Hr (Watched ε σ) α} {m' : Hr σ α}

/-- Both calls return the same. -/
theorem Forgets.result (h : Forgets m m') {w : Watched ε σ} {s : σ} (hs : w.object = s) :
    m.result w = m'.result s := by
  rw [Hr.result, Hr.result, ← hs, ← h w]
  cases m w <;> rfl

/-- Both calls leave the same object. -/
theorem Forgets.after (h : Forgets m m') (w : Watched ε σ) :
    (m.after w).object = m'.after w.object := by
  rw [Hr.after, Hr.after, ← h w]
  cases m w <;> rfl

theorem forgets_pure (a : α) : Forgets (pure a : Hr (Watched ε σ) α) (pure a) := fun _ => rfl

theorem forgets_throw (e : HRESULT) : Forgets (throw e : Hr (Watched ε σ) α) (throw e) :=
  fun _ => rfl

theorem forgets_quiet (m' : Hr σ α) : Forgets (quiet m' : Hr (Watched ε σ) α) m' := by
  intro w
  rw [quiet, Hr.on]
  cases m' w.object <;> rfl

theorem forgets_bind {f : α → Hr (Watched ε σ) β} {f' : α → Hr σ β} (h : Forgets m m')
    (hf : ∀ a, Forgets (f a) (f' a)) : Forgets (m >>= f) (m' >>= f') := by
  intro w
  have hw := h w
  cases hm : m w with
  | ok a w' =>
    rw [hm] at hw
    rw [Hr.bind_ok hm, Hr.bind_ok hw.symm]
    exact hf a w'
  | error e w' =>
    rw [hm] at hw
    rw [Hr.bind_error hm, Hr.bind_error hw.symm]
    rfl

theorem forgets_getObject_bind {f : σ → Hr (Watched ε σ) β} {f' : σ → Hr σ β}
    (hf : ∀ s, Forgets (f s) (f' s)) : Forgets (getObject >>= f) (get >>= f') :=
  fun w => hf w.object w

/-- A look at the object that the other call does not take. -/
theorem forgets_getObject_then {f : σ → Hr (Watched ε σ) β} {m' : Hr σ β}
    (hf : ∀ s, Forgets (f s) m') : Forgets (getObject >>= f) m' :=
  fun w => hf w.object w

theorem forgets_getObject_modify {f : σ → Hr (Watched ε σ) Unit} (g : σ → σ → σ)
    (hf : ∀ s, Forgets (f s) (modify (g s))) :
    Forgets (getObject >>= f) (modify fun s => g s s) :=
  fun w => hf w.object w

theorem forgets_note (event : ε) : Forgets (note event : Hr (Watched ε σ) Unit) (pure ()) :=
  fun _ => rfl

/-- A call that only computes a value. -/
theorem Forgets.value {a : α} (h : Forgets m (pure a)) (w : Watched ε σ) :
    ∃ w', m w = .ok a w' ∧ w'.object = w.object := by
  have hw := h w
  cases hm : m w with
  | ok a' w' =>
    rw [hm] at hw
    injection hw with ha hobject
    exact ⟨w', by rw [ha], hobject⟩
  | error e w' =>
    rw [hm] at hw
    cases hw

theorem forgets_value_bind {f : α → Hr (Watched ε σ) β} {m' : Hr σ β} {a : α}
    (h : Forgets m (pure a)) (hf : Forgets (f a) m') : Forgets (m >>= f) m' := by
  intro w
  obtain ⟨w', hm, hobject⟩ := h.value w
  rw [Hr.bind_ok hm, ← hobject]
  exact hf w'

/-- What follows does not touch the object. -/
theorem forgets_bind_value {m : Hr (Watched ε σ) Unit} {f : Unit → Hr (Watched ε σ) Unit}
    {m' : Hr σ Unit} (h : Forgets m m') (hf : ∀ a, Forgets (f a) (pure ())) :
    Forgets (m >>= f) m' := by
  have hbind := forgets_bind h hf
  rwa [bind_pure_unit] at hbind

/-- A check that the result at hand has been through as well. -/
theorem forgets_chkIf_bind {c : Prop} [Decidable c] {e : HRESULT} {f : Unit → Hr (Watched ε σ) α}
    {x : Except HRESULT α} (hx : c → x = .error e) (hf : ¬c → Forgets (f ()) (Hr.ofExcept x)) :
    Forgets (Hr.chkIf c e >>= f) (Hr.ofExcept x) := by
  intro w
  by_cases hc : c
  · rw [Hr.bind_error (Hr.chkIf_true hc e w), hx hc]
    rfl
  · rw [Hr.bind_ok (Hr.chkIf_false hc e w)]
    exact hf hc w

theorem forgets_ofExcept (x : Except HRESULT α) :
    Forgets (Hr.ofExcept x : Hr (Watched ε σ) α) (Hr.ofExcept x) := by
  intro w
  cases x <;> rfl

theorem forgets_attempt {x : Except HRESULT α} (h : Forgets m (Hr.ofExcept x)) :
    Forgets (attempt m) (pure x) := by
  intro w
  have hresult : m.result w = x := by rw [h.result rfl, Hr.result_ofExcept]
  have hobject : (m.after w).object = w.object := by rw [h.after, Hr.after_ofExcept]
  rw [Hr.pure_apply, ← hresult, Hr.result]
  rw [Hr.after] at hobject
  cases hm : m w with
  | ok a w' =>
    rw [hm] at hobject
    rw [attempt_ok hm]
    exact congrArg _ hobject
  | error e w' =>
    rw [hm] at hobject
    rw [attempt_error hm]
    exact congrArg _ hobject

theorem forgets_afterwards {m : Hr (Watched ε τ) α} {m' : Hr τ α} (h : Forgets m m')
    (object : τ) : Forgets (afterwards object m : Hr (Watched ε σ) τ) (pure (m'.after object)) := by
  intro w
  rw [Hr.pure_apply, ← h.after ⟨object, w.events⟩]
  rfl

theorem forgets_ite {c : Prop} [Decidable c] {m₁ m₂ : Hr (Watched ε σ) α} {m₁' m₂' : Hr σ α}
    (h₁ : Forgets m₁ m₁') (h₂ : Forgets m₂ m₂') :
    Forgets (if c then m₁ else m₂) (if c then m₁' else m₂') := by
  split_ifs
  · exact h₁
  · exact h₂

theorem forgets_chkIf (c : Prop) [Decidable c] (e : HRESULT) :
    Forgets (Hr.chkIf c e : Hr (Watched ε σ) Unit) (Hr.chkIf c e) :=
  forgets_ite (forgets_throw e) (forgets_pure ())

theorem forgets_chk (hr : HRESULT) : Forgets (Hr.chk hr : Hr (Watched ε σ) Unit) (Hr.chk hr) :=
  forgets_ite (forgets_throw hr) (forgets_pure ())

theorem forgets_ignore (h : Forgets m m') : Forgets (Hr.ignore m) (Hr.ignore m') := by
  intro w
  have hw := h w
  rw [Hr.ignore, Hr.ignore, ← hw]
  cases m w <;> rfl

theorem forgets_when {c : Prop} [Decidable c] {m : Hr (Watched ε σ) Unit} {m' : Hr σ Unit}
    (h : Forgets m m') : Forgets (Hr.when c m) (Hr.when c m') := forgets_ite h (forgets_pure ())

end Forgets

/-! ### What holds of everything noted -/

section Keeps

variable {Good : ε → Prop} {P : Watched ε σ → Prop}

theorem keeps_orElse {m m' : Hr (Watched ε σ) α} (h : Hr.Keeps P m) (h' : Hr.Keeps P m') :
    Hr.Keeps P (orElse m m') := by
  intro w hw
  have hfirst := h w hw
  rw [Hr.after] at hfirst
  rw [Hr.after, orElse]
  cases hm : m w with
  | ok a w' =>
    rw [hm] at hfirst
    exact hfirst
  | error e w' =>
    rw [hm] at hfirst
    exact h' w' hfirst

theorem keeps_attempt {m : Hr (Watched ε σ) α} (h : Hr.Keeps P m) : Hr.Keeps P (attempt m) := by
  intro w hw
  have hafter := h w hw
  cases hm : m w with
  | ok a w' =>
    rw [(Hr.after_ok (attempt_ok hm)).1]
    rwa [(Hr.after_ok hm).1] at hafter
  | error e w' =>
    rw [(Hr.after_ok (attempt_error hm)).1]
    rwa [(Hr.after_error hm).1] at hafter

theorem keeps_value_bind {m : Hr (Watched ε σ) α} {f : α → Hr (Watched ε σ) β} {a : α}
    (h : Forgets m (pure a)) (hm : Hr.Keeps P m) (hf : Hr.Keeps P (f a)) :
    Hr.Keeps P (m >>= f) := by
  intro w hw
  have hafter := hm w hw
  obtain ⟨w', he, -⟩ := h.value w
  rw [Hr.after, he] at hafter
  rw [Hr.after, Hr.bind_ok he]
  exact hf w' hafter

theorem keeps_ofExcept (x : Except HRESULT α) :
    Hr.Keeps P (Hr.ofExcept x : Hr (Watched ε σ) α) := by
  intro w hw
  rwa [Hr.after_ofExcept]

theorem forall_concat {events : List ε} {event : ε} (h : ∀ e ∈ events, Good e)
    (hevent : Good event) : ∀ e ∈ events ++ [event], Good e := by
  intro e he
  rcases List.mem_append.mp he with he | he
  · exact h e he
  · rw [List.mem_singleton.mp he]
    exact hevent

/-- The object has a property, and everything noted so far is good. -/
structure Tidy (Q : σ → Prop) (Good : ε → Prop) (w : Watched ε σ) : Prop where
  object : Q w.object
  events : ∀ e ∈ w.events, Good e

section Tidy

variable {Q : σ → Prop}

theorem tidy_start {s : σ} (h : Q s) : Tidy Q Good (start s) := ⟨h, fun _ he => by cases he⟩

theorem keeps_note {event : ε} (h : Good event) : Hr.Keeps (Tidy Q Good) (note event) :=
  fun _ hw => ⟨hw.object, forall_concat hw.events h⟩

theorem keeps_quiet {m : Hr σ α} (h : Hr.Keeps Q m) : Hr.Keeps (Tidy Q Good) (quiet m) := by
  intro w hw
  rw [quiet, Hr.after_on]
  exact ⟨h w.object hw.object, hw.events⟩

theorem keeps_getObject_bind {f : σ → Hr (Watched ε σ) α}
    (hf : ∀ s, Q s → Hr.Keeps (Tidy Q Good) (f s)) : Hr.Keeps (Tidy Q Good) (getObject >>= f) :=
  fun w hw => hf w.object hw.object w hw

theorem keeps_afterwards {Q' : τ → Prop} {m : Hr (Watched ε τ) α}
    (h : Hr.Keeps (Tidy Q' Good) m) {object : τ} (hobject : Q' object) :
    Hr.Keeps (Tidy Q Good) (afterwards object m) :=
  fun w hw => ⟨hw.object, (h ⟨object, w.events⟩ ⟨hobject, hw.events⟩).events⟩

end Tidy

end Keeps

end Watched

end StunServer
