import Mathlib.Data.List.TakeWhile
import Mathlib.Data.Vector.Basic

/-! Result codes, the `Chk` macros and C strings. A method that returns an `HRESULT`
and works on `*this` is a computation that either goes on or stops with a failed
code; in both cases the object keeps what was done to it. -/

namespace StunServer

abbrev HRESULT := Int32

def S_OK : HRESULT := 0
def S_FALSE : HRESULT := 1
def E_UNEXPECTED : HRESULT := Int32.ofBitVec 0x8000FFFF#32
def E_INVALIDARG : HRESULT := Int32.ofBitVec 0x80070057#32
def E_FAIL : HRESULT := Int32.ofBitVec 0x80004005#32

def SUCCEEDED (hr : HRESULT) : Bool := decide (0 ≤ hr)
def FAILED (hr : HRESULT) : Bool := decide (hr < 0)

/-- The caller's variable after a call that sets it when it succeeds. -/
def outOr {α : Type} (call : Except HRESULT α) (before : α) : α :=
  match call with
  | .ok a => a
  | .error _ => before

/-- `ChkIf(expr, hrerror)` in a function that works on no object. -/
def chkIf (c : Prop) [Decidable c] (hrerror : HRESULT) : Except HRESULT Unit :=
  if c then .error hrerror else .ok ()

theorem chkIf_eq_ok {c : Prop} [Decidable c] {hrerror : HRESULT} {a : Unit} :
    chkIf c hrerror = .ok a ↔ ¬c := by
  rw [chkIf]
  split_ifs with h
  · exact iff_of_false nofun (not_not_intro h)
  · exact iff_of_true rfl h

theorem bind_eq_ok {α β : Type} {x : Except HRESULT α} {f : α → Except HRESULT β} {b : β} :
    x >>= f = .ok b ↔ ∃ a, x = .ok a ∧ f a = .ok b := by
  cases x with
  | error hr => exact iff_of_false nofun (by simp)
  | ok a =>
    constructor
    · intro h
      exact ⟨a, rfl, h⟩
    · rintro ⟨_, ⟨⟩, h⟩
      exact h

theorem toOption_eq_some {α : Type} {x : Except HRESULT α} {a : α} :
    x.toOption = some a ↔ x = .ok a := by
  cases x with
  | error hr => exact iff_of_false nofun nofun
  | ok a' => exact ⟨fun h => congrArg Except.ok (Option.some.inj h), fun h => h ▸ rfl⟩

abbrev Hr (σ α : Type) := EStateM HRESULT σ α

namespace Hr

variable {σ τ α β : Type}

/-- `Chk(expr)` for a result code already at hand. -/
def chk (hr : HRESULT) : Hr σ Unit := if FAILED hr then throw hr else pure ()

/-- `ChkIf(expr, hrerror)`, and `ChkIfA` in a build without assertions. -/
def chkIf (c : Prop) [Decidable c] (hrerror : HRESULT) : Hr σ Unit :=
  if c then throw hrerror else pure ()

/-- A call whose result code nobody looks at. -/
def ignore (m : Hr σ α) : Hr σ Unit := fun s =>
  match m s with
  | .ok _ s' => .ok () s'
  | .error _ s' => .ok () s'

/-- `if (c) { ... }`. -/
def when (c : Prop) [Decidable c] (m : Hr σ Unit) : Hr σ Unit := if c then m else pure ()

/-- A call on a member object. -/
def on (get : σ → τ) (put : σ → τ → σ) (m : Hr τ α) : Hr σ α := fun s =>
  match m (get s) with
  | .ok a t => .ok a (put s t)
  | .error e t => .error e (put s t)

/-- The object after the call, whether or not it succeeded. -/
def after (m : Hr σ α) (s : σ) : σ :=
  match m s with
  | .ok _ s' => s'
  | .error _ s' => s'

/-- `SUCCEEDED(call)`. -/
def succeeds (m : Hr σ α) (s : σ) : Bool :=
  match m s with
  | .ok _ _ => true
  | .error _ _ => false

/-- A result that is already at hand. -/
def ofExcept (x : Except HRESULT α) : Hr σ α := fun s =>
  match x with
  | .ok a => .ok a s
  | .error e => .error e s

/-- What the call returns, whatever it does to the object. -/
def result (m : Hr σ α) (s : σ) : Except HRESULT α :=
  match m s with
  | .ok a _ => .ok a
  | .error e _ => .error e

@[simp] theorem pure_apply (a : α) (s : σ) : (pure a : Hr σ α) s = .ok a s := rfl

@[simp] theorem throw_apply (e : HRESULT) (s : σ) : (throw e : Hr σ α) s = .error e s := rfl

@[simp] theorem get_apply (s : σ) : (get : Hr σ σ) s = .ok s s := rfl

@[simp] theorem set_apply (s' s : σ) : (set s' : Hr σ PUnit) s = .ok () s' := rfl

@[simp] theorem modify_apply (f : σ → σ) (s : σ) : (modify f : Hr σ PUnit) s = .ok () (f s) := rfl

theorem bind_ok {x : Hr σ α} {f : α → Hr σ β} {s s' : σ} {a : α} (h : x s = .ok a s') :
    (x >>= f) s = f a s' := by
  change EStateM.bind x f s = _
  rw [EStateM.bind, h]

theorem bind_error {x : Hr σ α} {f : α → Hr σ β} {s s' : σ} {e : HRESULT}
    (h : x s = .error e s') : (x >>= f) s = .error e s' := by
  change EStateM.bind x f s = _
  rw [EStateM.bind, h]

@[simp] theorem chkIf_true {c : Prop} [Decidable c] (h : c) (e : HRESULT) (s : σ) :
    (chkIf c e : Hr σ Unit) s = .error e s := by
  rw [chkIf, if_pos h]
  rfl

@[simp] theorem chkIf_false {c : Prop} [Decidable c] (h : ¬c) (e : HRESULT) (s : σ) :
    (chkIf c e : Hr σ Unit) s = .ok () s := by
  rw [chkIf, if_neg h]
  rfl

theorem chk_ok {hr : HRESULT} (h : FAILED hr = false) (s : σ) : (chk hr : Hr σ Unit) s = .ok () s := by
  rw [chk, h]
  rfl

theorem chk_error {hr : HRESULT} (h : FAILED hr = true) (s : σ) :
    (chk hr : Hr σ Unit) s = .error hr s := by
  rw [chk, h]
  rfl

theorem on_ok {get : σ → τ} {put : σ → τ → σ} {m : Hr τ α} {s : σ} {t : τ} {a : α}
    (h : m (get s) = .ok a t) : on get put m s = .ok a (put s t) := by
  rw [on, h]

theorem on_error {get : σ → τ} {put : σ → τ → σ} {m : Hr τ α} {s : σ} {t : τ} {e : HRESULT}
    (h : m (get s) = .error e t) : on get put m s = .error e (put s t) := by
  rw [on, h]

theorem ignore_ok {m : Hr σ α} {s s' : σ} {a : α} (h : m s = .ok a s') :
    ignore m s = .ok () s' := by
  rw [ignore, h]

theorem after_ok {m : Hr σ α} {s s' : σ} {a : α} (h : m s = .ok a s') :
    m.after s = s' ∧ m.succeeds s = true := by
  rw [after, succeeds, h]
  exact ⟨rfl, rfl⟩

theorem after_error {m : Hr σ α} {s s' : σ} {e : HRESULT} (h : m s = .error e s') :
    m.after s = s' ∧ m.succeeds s = false := by
  rw [after, succeeds, h]
  exact ⟨rfl, rfl⟩

theorem result_ok {m : Hr σ α} {s s' : σ} {a : α} (h : m s = .ok a s') : m.result s = .ok a := by
  rw [result, h]

theorem result_error {m : Hr σ α} {s s' : σ} {e : HRESULT} (h : m s = .error e s') :
    m.result s = .error e := by
  rw [result, h]

theorem result_bind_ok {x : Hr σ α} {f : α → Hr σ β} {s s' : σ} {a : α} (h : x s = .ok a s') :
    (x >>= f).result s = (f a).result s' := by
  rw [result, bind_ok h, result]

theorem result_bind_error {x : Hr σ α} {f : α → Hr σ β} {s s' : σ} {e : HRESULT}
    (h : x s = .error e s') : (x >>= f).result s = .error e := result_error (bind_error h)

theorem result_ofExcept (x : Except HRESULT α) (s : σ) : (ofExcept x : Hr σ α).result s = x := by
  cases x <;> rfl

theorem after_ofExcept (x : Except HRESULT α) (s : σ) : (ofExcept x : Hr σ α).after s = s := by
  cases x <;> rfl

theorem result_discard (m : Hr σ α) (s : σ) :
    Hr.result (do let _ ← m) s = (m.result s).map fun _ => () := by
  cases h : m s with
  | ok a s' =>
    rw [result_bind_ok h, result_ok h]
    rfl
  | error e s' =>
    rw [result_bind_error h, result_error h]
    rfl

theorem after_on (get : σ → τ) (put : σ → τ → σ) (m : Hr τ α) (s : σ) :
    (on get put m).after s = put s (m.after (get s)) := by
  rw [after, after, on]
  cases m (get s) <;> rfl

/-! ### What a computation keeps -/

/-- The object has the property afterwards if it had it before, failed or not. -/
def Keeps (P : σ → Prop) (m : Hr σ α) : Prop := ∀ s, P s → P (m.after s)

section Keeps

variable {P : σ → Prop}

theorem keeps_pure (a : α) : Keeps P (pure a : Hr σ α) := fun _ h => h

theorem keeps_throw (e : HRESULT) : Keeps P (throw e : Hr σ α) := fun _ h => h

theorem keeps_modify {f : σ → σ} (h : ∀ s, P s → P (f s)) : Keeps P (modify f : Hr σ PUnit) := h

theorem keeps_chkIf (c : Prop) [Decidable c] (e : HRESULT) : Keeps P (chkIf c e : Hr σ Unit) := by
  intro s h
  unfold chkIf
  split_ifs
  · exact h
  · exact h

theorem keeps_bind {x : Hr σ α} {f : α → Hr σ β} (hx : Keeps P x) (hf : ∀ a, Keeps P (f a)) :
    Keeps P (x >>= f) := by
  intro s h
  have hs := hx s h
  cases hr : x s with
  | ok a s' =>
    rw [after, hr] at hs
    rw [after, bind_ok hr]
    exact hf a s' hs
  | error e s' =>
    rw [after, hr] at hs
    rw [after, bind_error hr]
    exact hs

theorem keeps_ite {c : Prop} [Decidable c] {m m' : Hr σ α} (h : Keeps P m) (h' : Keeps P m') :
    Keeps P (if c then m else m') := by
  split_ifs
  · exact h
  · exact h'

theorem keeps_when {c : Prop} [Decidable c] {m : Hr σ Unit} (h : Keeps P m) : Keeps P (when c m) :=
  keeps_ite h (keeps_pure ())

theorem keeps_chk (hr : HRESULT) : Keeps P (chk hr : Hr σ Unit) :=
  keeps_ite (keeps_throw hr) (keeps_pure ())

/-- What is read off the object may be used to show that the rest keeps the property. -/
theorem keeps_get_bind {f : σ → Hr σ β} (hf : ∀ s, P s → Keeps P (f s)) :
    Keeps P (get >>= f) := fun s h => hf s h s h

theorem keeps_set {s' : σ} (h : P s') : Keeps P (set s' : Hr σ PUnit) := fun _ _ => h

theorem keeps_on {get : σ → τ} {put : σ → τ → σ} (m : Hr τ α) (h : ∀ s t, P s → P (put s t)) :
    Keeps P (on get put m) := by
  intro s hs
  rw [after, on]
  cases m (get s) with
  | ok a t => exact h s t hs
  | error e t => exact h s t hs

theorem keeps_ignore {m : Hr σ α} (h : Keeps P m) : Keeps P (ignore m) := by
  intro s hs
  have hafter := h s hs
  rw [after] at hafter
  rw [after, ignore]
  cases hm : m s with
  | ok a s' =>
    rw [hm] at hafter
    exact hafter
  | error e s' =>
    rw [hm] at hafter
    exact hafter

end Keeps

/-! ### What a successful computation leaves behind -/

/-- The call succeeds and the object then has the property. -/
def Ensures (m : Hr σ Unit) (s : σ) (Q : σ → Prop) : Prop := ∃ s', m s = .ok () s' ∧ Q s'

section Ensures

variable {s : σ} {Q R : σ → Prop} {m : Hr σ Unit}

theorem Ensures.pure (h : Q s) : Ensures (pure ()) s Q := ⟨s, rfl, h⟩

theorem Ensures.bind {f : Unit → Hr σ Unit} (h : Ensures m s Q)
    (hf : ∀ s', Q s' → Ensures (f ()) s' R) : Ensures (m >>= f) s R := by
  obtain ⟨s', he, hq⟩ := h
  obtain ⟨s'', he', hr⟩ := hf s' hq
  exact ⟨s'', (bind_ok he).trans he', hr⟩

theorem Ensures.ignore (h : Ensures m s Q) : Ensures (ignore m) s Q := by
  obtain ⟨s', he, hq⟩ := h
  exact ⟨s', ignore_ok he, hq⟩

theorem Ensures.when {c : Prop} [Decidable c] (h : c → Ensures m s Q) (hn : ¬c → Q s) :
    Ensures (when c m) s Q := by
  unfold Hr.when
  split_ifs with hc
  · exact h hc
  · exact Ensures.pure (hn hc)

theorem Ensures.after (h : Ensures m s Q) : Q (m.after s) := by
  obtain ⟨s', he, hq⟩ := h
  rwa [Hr.after, he]

theorem Ensures.mono (h : Ensures m s Q) (hqr : ∀ s', Q s' → R s') : Ensures m s R := by
  obtain ⟨s', he, hq⟩ := h
  exact ⟨s', he, hqr s' hq⟩

end Ensures

/-! ### Where a computation ends -/

/-- The call fails with the code, if there is one, and leaves `R`; otherwise it leaves `Q`. -/
def EndsWith (m : Hr σ Unit) (s : σ) (R : σ → Prop) (Q : σ → Prop) : Option HRESULT → Prop
  | none => ∃ s', m s = .ok () s' ∧ Q s'
  | some hr => ∃ s', m s = .error hr s' ∧ R s'

section EndsWith

variable {s : σ} {P Q R : σ → Prop} {m : Hr σ Unit} {failure failure' : Option HRESULT}

theorem EndsWith.pure (h : Q s) : EndsWith (pure ()) s R Q none := ⟨s, rfl, h⟩

theorem EndsWith.bind {f : Unit → Hr σ Unit} (h : EndsWith m s R P failure)
    (hf : ∀ s', P s' → EndsWith (f ()) s' R Q failure') :
    EndsWith (m >>= f) s R Q (failure.or failure') := by
  cases failure with
  | none =>
    obtain ⟨s', he, hp⟩ := h
    have hrest := hf s' hp
    rw [Option.none_or]
    cases failure' with
    | none =>
      obtain ⟨s'', he', hq⟩ := hrest
      exact ⟨s'', (bind_ok he).trans he', hq⟩
    | some hr =>
      obtain ⟨s'', he', hr⟩ := hrest
      exact ⟨s'', (bind_ok he).trans he', hr⟩
  | some hr =>
    obtain ⟨s', he, hr⟩ := h
    exact ⟨s', bind_error he, hr⟩

/-- What comes after does not fail. -/
theorem EndsWith.before {f : Unit → Hr σ Unit} (h : EndsWith m s R P failure)
    (hf : ∀ s', P s' → EndsWith (f ()) s' R Q none) : EndsWith (m >>= f) s R Q failure := by
  have hbind := h.bind hf
  rwa [Option.or_none] at hbind

theorem EndsWith.chkIf {c : Prop} [Decidable c] (e : HRESULT) (hr : R s) (hq : ¬c → Q s) :
    EndsWith (chkIf c e) s R Q (if c then some e else none) := by
  by_cases hc : c
  · rw [if_pos hc]
    exact ⟨s, chkIf_true hc e s, hr⟩
  · rw [if_neg hc]
    exact ⟨s, chkIf_false hc e s, hq hc⟩

theorem EndsWith.get {f : σ → Hr σ Unit} (h : EndsWith (f s) s R Q failure) :
    EndsWith (MonadState.get >>= f) s R Q failure := by
  cases failure with
  | none =>
    obtain ⟨s', he, hq⟩ := h
    exact ⟨s', (bind_ok (get_apply s)).trans he, hq⟩
  | some hr =>
    obtain ⟨s', he, hr⟩ := h
    exact ⟨s', (bind_ok (get_apply s)).trans he, hr⟩

/-- A step that succeeds is made. -/
theorem EndsWith.step {f : Unit → Hr σ Unit} {s' : σ} (hm : m s = .ok () s')
    (h : EndsWith (f ()) s' R Q failure) : EndsWith (m >>= f) s R Q failure := by
  have hfirst : EndsWith m s R (· = s') none := ⟨s', hm, rfl⟩
  rw [← Option.none_or (o := failure)]
  refine hfirst.bind fun s'' hs'' => ?_
  rw [hs'']
  exact h

/-- A call on a member object ends as the call itself. -/
theorem EndsWith.on {get : σ → τ} {put : σ → τ → σ} {m : Hr τ Unit} {R' Q' : τ → Prop}
    (h : EndsWith m (get s) R' Q' failure) (hr : ∀ t, R' t → R (put s t))
    (hq : ∀ t, Q' t → Q (put s t)) : EndsWith (on get put m) s R Q failure := by
  cases failure with
  | none =>
    obtain ⟨t, he, ht⟩ := h
    exact ⟨put s t, on_ok he, hq t ht⟩
  | some e =>
    obtain ⟨t, he, ht⟩ := h
    exact ⟨put s t, on_error he, hr t ht⟩

theorem EndsWith.mono (h : EndsWith m s R Q failure) (hq : ∀ s', Q s' → P s') :
    EndsWith m s R P failure := by
  cases failure with
  | none =>
    obtain ⟨s', he, h'⟩ := h
    exact ⟨s', he, hq s' h'⟩
  | some hr => exact h

theorem EndsWith.mono_failed {R' : σ → Prop} (h : EndsWith m s R Q failure)
    (hr : ∀ s', R s' → R' s') : EndsWith m s R' Q failure := by
  cases failure with
  | none => exact h
  | some e =>
    obtain ⟨s', he, h'⟩ := h
    exact ⟨s', he, hr s' h'⟩

end EndsWith

end Hr

/-! ### C strings -/

/-- The string found in memory: what precedes the first null character. -/
def cstr (mem : List UInt8) : List UInt8 := mem.takeWhile (· ≠ 0)

def strlen (mem : List UInt8) : ℕ := (cstr mem).length

theorem cstr_append_zero (s rest : List UInt8) : cstr (s ++ 0 :: rest) = cstr s := by
  induction s with
  | nil => rfl
  | cons x s ih =>
    rw [List.cons_append, cstr, cstr, List.takeWhile_cons, List.takeWhile_cons]
    split_ifs
    · exact congrArg (x :: ·) ih
    · rfl

theorem cstr_cstr (s : List UInt8) : cstr (cstr s) = cstr s := List.takeWhile_idem

theorem cstr_length_le (s : List UInt8) : (cstr s).length ≤ s.length :=
  (List.takeWhile_prefix _).length_le

/-- The characters that `strlen` counts. -/
theorem take_strlen (s : List UInt8) : s.take (strlen s) = cstr s :=
  (List.prefix_iff_eq_take.mp (List.takeWhile_prefix _)).symm

/-- A string ends before its array does. -/
theorem strlen_lt_of_mem {s : List UInt8} (h : 0 ∈ s) : strlen s < s.length := by
  refine lt_of_le_of_ne (cstr_length_le s) fun heq => ?_
  have hall : cstr s = s := (List.takeWhile_prefix _).eq_of_length heq
  rw [← hall] at h
  simpa using List.mem_takeWhile_imp h

/-- An array holds the empty string if it starts with the terminator. -/
theorem cstr_ne_nil {n : ℕ} (s : List.Vector UInt8 (n + 1)) : cstr s.toList ≠ [] ↔ s.head ≠ 0 := by
  have h := List.Vector.toList_cons s.head s.tail
  rw [List.Vector.cons_head_tail] at h
  rw [h, cstr, List.takeWhile_cons]
  by_cases hz : s.head = 0
  · simp [hz]
  · simp [hz]

/-- `memcpy` to the front of a character array. -/
def memcpy {n : ℕ} (dst : List.Vector UInt8 n) (src : List UInt8) : List.Vector UInt8 n :=
  List.Vector.ofFn fun i => src.getD i (dst.get i)

/-- `strcpy` into a character array that has room for the string. -/
def strcpy {n : ℕ} (dst : List.Vector UInt8 n) (src : List UInt8) : List.Vector UInt8 n :=
  memcpy dst (cstr src ++ [0])

theorem memcpy_toList {n : ℕ} (dst : List.Vector UInt8 n) {src : List UInt8}
    (h : src.length ≤ n) : (memcpy dst src).toList = src ++ dst.toList.drop src.length := by
  apply List.ext_getElem
  · rw [List.Vector.toList_length, List.length_append, List.length_drop, dst.toList_length]
    omega
  · intro i h1 h2
    rw [List.Vector.toList_length] at h1
    rw [List.getElem_append]
    split_ifs with hi
    · simp [memcpy, List.Vector.toList_ofFn, List.getD_eq_getElem?_getD, hi]
    · have hback : src.length + (i - src.length) = i := by omega
      simp [memcpy, List.Vector.toList_ofFn, List.getD_eq_getElem?_getD, hi, hback,
        List.Vector.get_eq_get_toList]

/-- The string in an array is the one copied there with its terminator. -/
theorem cstr_memcpy {n : ℕ} (dst : List.Vector UInt8 n) {s : List UInt8} (h : s.length < n) :
    cstr (memcpy dst (s ++ [0])).toList = cstr s := by
  rw [memcpy_toList dst (by rw [List.length_append]; exact h), List.append_assoc]
  exact cstr_append_zero s _

theorem cstr_strcpy {n : ℕ} (dst : List.Vector UInt8 n) {src : List UInt8}
    (h : (cstr src).length < n) : cstr (strcpy dst src).toList = cstr src := by
  rw [strcpy, cstr_memcpy dst h, cstr_cstr]

end StunServer
