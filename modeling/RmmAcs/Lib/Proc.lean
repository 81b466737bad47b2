/-
# Procedures with a return code

Cleanup code in C has one shape: it does one thing after another, and returns early with an error
code as soon as one of them fails.  A `Proc` is such a procedure on a state: a fault, or a return
code (`true` for success) and the state it leaves.  Loops over a linked list read the link of a
node BEFORE the body runs, since the body may unlink the node.

Four ways to reason about procedures are given for each way to build one: what every procedure
keeps whatever it returns (`Keeps`), what holds after success (`Success`), when two runs from
related states stay related (`Related`), and that a procedure returns at all (`Returns`).
-/
import Mathlib
import RmmAcs.Lib.Chain

namespace RmmAcs.Lib

variable {σ ε π α : Type}

/-- Two results agree: the same fault, or related values. -/
inductive Agree {α β : Type} (S : α → β → Prop) : Except ε α → Except ε β → Prop where
  | error (e : ε) : Agree S (.error e) (.error e)
  | ok {a : α} {b : β} (h : S a b) : Agree S (.ok a) (.ok b)

section Agree

variable {α β γ δ : Type} {S S' : α → β → Prop}

theorem Agree.mono {x : Except ε α} {y : Except ε β} (h : Agree S x y)
    (hS : ∀ a b, S a b → S' a b) : Agree S' x y := by
  cases h with
  | error e => exact .error e
  | ok h => exact .ok (hS _ _ h)

/-- One computation after another. -/
theorem Agree.bind {Q : γ → δ → Prop} {x : Except ε α} {y : Except ε β} {f : α → Except ε γ}
    {g : β → Except ε δ} (h : Agree S x y) (hfg : ∀ a b, S a b → Agree Q (f a) (g b)) :
    Agree Q (x >>= f) (y >>= g) := by
  cases h with
  | error e => exact .error e
  | ok h => exact hfg _ _ h

theorem Agree.map {Q : γ → δ → Prop} {x : Except ε α} {y : Except ε β} {f : α → γ} {g : β → δ}
    (h : Agree S x y) (hfg : ∀ a b, S a b → Q (f a) (g b)) : Agree Q (x.map f) (y.map g) := by
  cases h with
  | error e => exact .error e
  | ok h => exact .ok (hfg _ _ h)

end Agree

/-- A procedure on the state `σ`, with faults `ε`. -/
abbrev Proc (σ ε : Type) := σ → Except ε (Bool × σ)

namespace Proc

/-! ## 1. Building procedures -/

def skip : Proc σ ε := fun s => .ok (true, s)

/-- `q` runs if `p` succeeds. -/
def seq (p q : Proc σ ε) : Proc σ ε := fun s =>
  match p s with
  | .error e => .error e
  | .ok (false, s) => .ok (false, s)
  | .ok (true, s) => q s

/-- One after another. -/
def all : List (Proc σ ε) → Proc σ ε
  | [] => skip
  | p :: ps => seq p (all ps)

/-- `if (b) { p }`. -/
def guarded (b : σ → Bool) (p : Proc σ ε) : Proc σ ε := fun s => if b s then p s else skip s

/-- `while (cur != NULL) { next = cur->next; body(cur); cur = next; }`. -/
def forEachNode (mem : σ → NodeMem π α) (endless : ε) (body : π → Proc σ ε) :
    ℕ → Option π → Proc σ ε
  | 0, _ => fun _ => .error endless
  | _ + 1, none => skip
  | n + 1, some a => fun s =>
    seq (body a) (forEachNode mem endless body n (mem s a).next) s

theorem seq_eq_ok {p q : Proc σ ε} {s s'' : σ} {b : Bool} (h : seq p q s = .ok (b, s'')) :
    (p s = .ok (false, s'') ∧ b = false) ∨ ∃ s', p s = .ok (true, s') ∧ q s' = .ok (b, s'') := by
  unfold seq at h
  split at h
  · exact absurd h (by simp)
  · rename_i hp
    simp only [Except.ok.injEq, Prod.mk.injEq] at h
    obtain ⟨rfl, rfl⟩ := h
    exact Or.inl ⟨hp, rfl⟩
  · rename_i s' hp
    exact Or.inr ⟨s', hp, h⟩

theorem seq_success {p q : Proc σ ε} {s s'' : σ} (h : seq p q s = .ok (true, s'')) :
    ∃ s', p s = .ok (true, s') ∧ q s' = .ok (true, s'') := by
  rcases seq_eq_ok h with ⟨-, hb⟩ | h
  · exact absurd hb (by decide)
  · exact h

theorem guarded_success {b : σ → Bool} {p : Proc σ ε} {s s' : σ}
    (h : guarded b p s = .ok (true, s')) :
    (b s = true ∧ p s = .ok (true, s')) ∨ (b s = false ∧ s' = s) := by
  unfold guarded at h
  cases hb : b s with
  | true =>
    rw [hb] at h
    exact Or.inl ⟨rfl, h⟩
  | false =>
    rw [hb] at h
    simp only [skip, Bool.false_eq_true, if_false, Except.ok.injEq, Prod.mk.injEq, true_and] at h
    exact Or.inr ⟨rfl, h.symm⟩

/-- A list of procedures that succeeds, cut in two. -/
theorem all_append_success {qs : List (Proc σ ε)} :
    ∀ {ps : List (Proc σ ε)} {s s'' : σ}, all (ps ++ qs) s = .ok (true, s'') →
      ∃ s', all ps s = .ok (true, s') ∧ all qs s' = .ok (true, s'')
  | [], s, _, h => ⟨s, rfl, h⟩
  | p :: ps, s, s'', h => by
    obtain ⟨s₁, h₁, h₂⟩ := seq_success h
    obtain ⟨s', h₃, h₄⟩ := all_append_success h₂
    refine ⟨s', ?_, h₄⟩
    show seq p (all ps) s = _
    rw [seq, h₁]
    exact h₃

/-! ## 2. What a procedure keeps -/

/-- Whatever `p` returns, `I` holds after it. -/
def Keeps (I : σ → Prop) (p : Proc σ ε) : Prop :=
  ∀ s b s', I s → p s = .ok (b, s') → I s'

variable {I : σ → Prop} {p q : Proc σ ε}

theorem Keeps.skip : Keeps I (skip : Proc σ ε) := by
  intro s b s' hI h
  simp only [Proc.skip, Except.ok.injEq, Prod.mk.injEq] at h
  exact h.2 ▸ hI

theorem Keeps.seq (hp : Keeps I p) (hq : Keeps I q) : Keeps I (seq p q) := by
  intro s b s'' hI h
  rcases seq_eq_ok h with ⟨h, -⟩ | ⟨s', h, h'⟩
  · exact hp s _ _ hI h
  · exact hq s' _ _ (hp s _ _ hI h) h'

theorem Keeps.all : ∀ {ps : List (Proc σ ε)}, (∀ p ∈ ps, Keeps I p) → Keeps I (all ps)
  | [], _ => Keeps.skip
  | _ :: _, h =>
    (h _ List.mem_cons_self).seq (Keeps.all fun p hp => h p (List.mem_cons_of_mem _ hp))

theorem Keeps.guarded {b : σ → Bool} (hp : Keeps I p) : Keeps I (guarded b p) := by
  intro s c s' hI h
  unfold Proc.guarded at h
  split at h
  · exact hp s c s' hI h
  · exact Keeps.skip s c s' hI h

/-- A procedure that depends on the state it starts in. -/
theorem Keeps.reading {f : σ → Proc σ ε} (h : ∀ s, Keeps I (f s)) : Keeps I fun s => f s s :=
  fun s b s' hI hf => h s s b s' hI hf

theorem Keeps.forEachNode {mem : σ → NodeMem π α} {endless : ε} {body : π → Proc σ ε}
    (h : ∀ a, Keeps I (body a)) :
    ∀ (n : ℕ) (cur : Option π), Keeps I (forEachNode mem endless body n cur)
  | 0, _ => fun _ _ _ _ hf => absurd hf (by simp [Proc.forEachNode])
  | _ + 1, none => Keeps.skip
  | n + 1, some a => fun s b s' hI hf =>
    Keeps.seq (h a) (Keeps.forEachNode h n (mem s a).next) s b s' hI hf

/-! ## 3. What holds after success -/

/-- From a state in `P`, if `p` succeeds then it leaves a state in `Q`. -/
def Success (P : σ → Prop) (p : Proc σ ε) (Q : σ → Prop) : Prop :=
  ∀ s s', P s → p s = .ok (true, s') → Q s'

variable {P Q R : σ → Prop}

theorem Success.skip (h : ∀ s, P s → Q s) : Success P (skip : Proc σ ε) Q := by
  intro s s' hP hs
  simp only [Proc.skip, Except.ok.injEq, Prod.mk.injEq, true_and] at hs
  exact hs ▸ h s hP

theorem Success.seq (hp : Success P p Q) (hq : Success Q q R) : Success P (seq p q) R := by
  intro s s'' hP h
  obtain ⟨s', h₁, h₂⟩ := seq_success h
  exact hq s' s'' (hp s s' hP h₁) h₂

/-- **The loop rule.**  `J l` holds when the nodes `l` are still ahead: it knows the first of
them is linked to the second, and the body on the first leads from `J (c :: l)` to `J l`. -/
theorem Success.forEachNode {mem : σ → NodeMem π α} {endless : ε} {body : π → Proc σ ε}
    {J : List (π × α) → σ → Prop}
    (hnext : ∀ c l s, J (c :: l) s → (mem s c.1).next = (l.head?).map Prod.fst)
    (hbody : ∀ c l, Success (J (c :: l)) (body c.1) (J l)) :
    ∀ (n : ℕ) (l : List (π × α)),
      Success (J l) (forEachNode mem endless body n ((l.head?).map Prod.fst)) (J [])
  | 0, _ => fun _ _ _ h => absurd h (by simp [Proc.forEachNode])
  | _ + 1, [] => Success.skip fun _ h => h
  | n + 1, c :: l => fun s s'' hJ h => by
    obtain ⟨s', h₁, h₂⟩ := seq_success h
    rw [hnext c l s hJ] at h₂
    exact Success.forEachNode hnext hbody n l s' s'' (hbody c l s s' hJ h₁) h₂

/-! ## 4. Two runs -/

/-- Two returns agree: the same fault, or the same return code and related states. -/
abbrev RelatedResult (T : σ → σ → Prop) : Except ε (Bool × σ) → Except ε (Bool × σ) → Prop :=
  Agree fun r r' => r.1 = r'.1 ∧ T r.2 r'.2

/-- From related states `p` does the same. -/
def Related (T : σ → σ → Prop) (p : Proc σ ε) : Prop :=
  ∀ s s', T s s' → RelatedResult T (p s) (p s')

variable {T : σ → σ → Prop}

theorem Related.skip : Related T (skip : Proc σ ε) := fun _ _ h => .ok ⟨rfl, h⟩

theorem Related.seq (hp : Related T p) (hq : Related T q) : Related T (seq p q) := by
  intro s s' h
  have hpr := hp s s' h
  unfold Proc.seq
  generalize p s = x at hpr
  generalize p s' = y at hpr
  cases hpr with
  | error e => exact .error e
  | @ok r r' hr =>
    obtain ⟨b, u⟩ := r
    obtain ⟨b', u'⟩ := r'
    obtain ⟨rfl, hu⟩ := hr
    cases b with
    | false => exact .ok ⟨rfl, hu⟩
    | true => exact hq u u' hu

theorem Related.all : ∀ {ps : List (Proc σ ε)}, (∀ p ∈ ps, Related T p) → Related T (all ps)
  | [], _ => Related.skip
  | _ :: _, h =>
    (h _ List.mem_cons_self).seq (Related.all fun p hp => h p (List.mem_cons_of_mem _ hp))

theorem Related.guarded {b : σ → Bool} (hb : ∀ s s', T s s' → b s = b s') (hp : Related T p) :
    Related T (guarded b p) := by
  intro s s' h
  unfold Proc.guarded
  rw [hb s s' h]
  split
  · exact hp s s' h
  · exact .ok ⟨rfl, h⟩

theorem Related.forEachNode {mem : σ → NodeMem π α} {endless : ε} {body : π → Proc σ ε}
    (hmem : ∀ s s', T s s' → mem s = mem s') (h : ∀ a, Related T (body a)) :
    ∀ (n : ℕ) (cur : Option π), Related T (forEachNode mem endless body n cur)
  | 0, _ => fun _ _ _ => .error _
  | _ + 1, none => Related.skip
  | n + 1, some a => fun s s' hs => by
    unfold Proc.forEachNode
    rw [hmem s s' hs]
    exact (h a).seq (Related.forEachNode hmem h n _) s s' hs

/-- A procedure that depends on the state it starts in, in the same way for both. -/
theorem Related.reading {ι : Type} {f : ι → Proc σ ε} {x : σ → ι}
    (hx : ∀ s s', T s s' → x s = x s') (h : ∀ i, Related T (f i)) : Related T fun s => f (x s) s := by
  intro s s' hs
  show RelatedResult T (f (x s) s) (f (x s') s')
  rw [hx s s' hs]
  exact h (x s') s s' hs

/-! ## 5. Returning -/

/-- **From a state in `P`, `p` returns**: with success in a state in `Q`, with an error code in
one in `E`. -/
def Returns (P : σ → Prop) (p : Proc σ ε) (Q E : σ → Prop) : Prop :=
  ∀ s, P s → (∃ s', p s = .ok (true, s') ∧ Q s') ∨ ∃ s', p s = .ok (false, s') ∧ E s'

variable {E : σ → Prop}

theorem Returns.skip (h : ∀ s, P s → Q s) : Returns P (skip : Proc σ ε) Q E :=
  fun s hP => Or.inl ⟨s, rfl, h s hP⟩

theorem Returns.mono {P' Q' E' : σ → Prop} (h : Returns P p Q E) (hP : ∀ s, P' s → P s)
    (hQ : ∀ s, Q s → Q' s) (hE : ∀ s, E s → E' s) : Returns P' p Q' E' := fun s hs =>
  (h s (hP s hs)).imp (fun ⟨s', hp, hs'⟩ => ⟨s', hp, hQ s' hs'⟩)
    fun ⟨s', hp, hs'⟩ => ⟨s', hp, hE s' hs'⟩

theorem Returns.seq (hp : Returns P p Q E) (hq : Returns Q q R E) : Returns P (seq p q) R E := by
  intro s hP
  unfold Proc.seq
  rcases hp s hP with ⟨s', hs, hQ⟩ | ⟨s', hs, hE⟩
  · rw [hs]
    exact hq s' hQ
  · rw [hs]
    exact Or.inr ⟨s', rfl, hE⟩

theorem seq_assoc (p q r : Proc σ ε) : Proc.seq (Proc.seq p q) r = Proc.seq p (Proc.seq q r) := by
  funext s
  unfold Proc.seq
  cases p s with
  | error e => rfl
  | ok x =>
    obtain ⟨b, s'⟩ := x
    cases b <;> rfl

/-- One list of procedures after another. -/
theorem all_append (qs : List (Proc σ ε)) :
    ∀ ps : List (Proc σ ε), Proc.all (ps ++ qs) = Proc.seq (Proc.all ps) (Proc.all qs)
  | [] => rfl
  | p :: ps => by
    rw [List.cons_append, Proc.all, Proc.all, all_append qs ps, seq_assoc]

/-- Procedures that all keep `I` when they return with success. -/
theorem Returns.all : ∀ {ps : List (Proc σ ε)}, (∀ p ∈ ps, Returns I p I E) →
    Returns I (all ps) I E
  | [], _ => Returns.skip fun _ h => h
  | _ :: _, h =>
    (h _ List.mem_cons_self).seq (Returns.all fun p hp => h p (List.mem_cons_of_mem _ hp))

theorem Returns.guarded {b : σ → Bool} (hp : Returns (fun s => P s ∧ b s = true) p Q E)
    (hskip : ∀ s, P s → b s = false → Q s) : Returns P (guarded b p) Q E := by
  intro s hP
  unfold Proc.guarded
  cases hb : b s with
  | true => exact hp s ⟨hP, hb⟩
  | false => exact Or.inl ⟨s, rfl, hskip s hP hb⟩

/-- What holds after success holds after a return with success. -/
theorem Returns.and_success {Q' : σ → Prop} (h : Returns P p Q E) (hs : Success P p Q') :
    Returns P p (fun s => Q s ∧ Q' s) E := fun s hP =>
  (h s hP).imp_left fun ⟨s', hp, hQ⟩ => ⟨s', hp, hQ, hs s s' hP hp⟩

/-- The loop rule, with enough fuel for the nodes ahead. -/
theorem Returns.forEachNode {mem : σ → NodeMem π α} {endless : ε} {body : π → Proc σ ε}
    {J : List (π × α) → σ → Prop}
    (hnext : ∀ c l s, J (c :: l) s → (mem s c.1).next = (l.head?).map Prod.fst)
    (hbody : ∀ c l, Returns (J (c :: l)) (body c.1) (J l) E) :
    ∀ (n : ℕ) (l : List (π × α)), l.length < n →
      Returns (J l) (forEachNode mem endless body n ((l.head?).map Prod.fst)) (J []) E
  | 0, _, hn => absurd hn (Nat.not_lt_zero _)
  | _ + 1, [], _ => Returns.skip fun _ h => h
  | n + 1, c :: l, hn => fun s hJ => by
    have hrest : Returns (J l) (Proc.forEachNode mem endless body n ((l.head?).map Prod.fst)) (J []) E :=
      Returns.forEachNode hnext hbody n l (Nat.lt_of_succ_lt_succ hn)
    rw [← hnext c l s hJ] at hrest
    exact (hbody c l).seq hrest s hJ

end Proc

end RmmAcs.Lib
