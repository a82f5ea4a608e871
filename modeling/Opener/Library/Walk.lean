import Opener.Library.LinkedCells

/-!
Loops over a linked list whose body may change the list. The cells are read from
the current state. `liveWalk` fetches the link after the body, `savedWalk` before
it; reading the data of a freed cell is the error `stale`.
-/

namespace LinkedCells

variable {α σ ε : Type*}

/-- Whether a loop goes on with the next cell or returns. -/
inductive Turn (σ : Type*) where
  | continue (s : σ)
  | stop (s : σ)

def liveWalk (cells : σ → Nat → Cell α) (stale exhausted : ε)
    (body : α → σ → Except ε σ) : Nat → Option Nat → σ → Except ε σ
  | _, none, s => .ok s
  | 0, some _, _ => .error exhausted
  | fuel + 1, some n, s =>
      match (cells s n).data with
      | none => .error stale
      | some a =>
          match body a s with
          | .error e => .error e
          | .ok s' => liveWalk cells stale exhausted body fuel (cells s' n).next s'

def savedWalk (cells : σ → Nat → Cell α) (stale exhausted : ε)
    (body : α → σ → Except ε (Turn σ)) : Nat → Option Nat → σ → Except ε σ
  | _, none, s => .ok s
  | 0, some _, _ => .error exhausted
  | fuel + 1, some n, s =>
      match (cells s n).data with
      | none => .error stale
      | some a =>
          match body a s with
          | .error e => .error e
          | .ok (.stop s') => .ok s'
          | .ok (.continue s') =>
              savedWalk cells stale exhausted body fuel (cells s n).next s'

/-- The elements a loop visits, each with the state in which the body is called. -/
def liveTurns (cells : σ → Nat → Cell α) (body : α → σ → Except ε σ) :
    Nat → Option Nat → σ → List (α × σ)
  | _, none, _ => []
  | 0, some _, _ => []
  | fuel + 1, some n, s =>
      match (cells s n).data with
      | none => []
      | some a => (a, s) ::
          match body a s with
          | .error _ => []
          | .ok s' => liveTurns cells body fuel (cells s' n).next s'

def savedTurns (cells : σ → Nat → Cell α) (body : α → σ → Except ε (Turn σ)) :
    Nat → Option Nat → σ → List (α × σ)
  | _, none, _ => []
  | 0, some _, _ => []
  | fuel + 1, some n, s =>
      match (cells s n).data with
      | none => []
      | some a => (a, s) ::
          match body a s with
          | .error _ | .ok (.stop _) => []
          | .ok (.continue s') => savedTurns cells body fuel (cells s n).next s'

/-- Where a loop that goes on does so, each time with the state after the body. -/
def savedSteps (cells : σ → Nat → Cell α) (body : α → σ → Except ε (Turn σ)) :
    Nat → Option Nat → σ → List (Option Nat × σ)
  | _, none, _ => []
  | 0, some _, _ => []
  | fuel + 1, some n, s =>
      match (cells s n).data with
      | none => []
      | some a =>
          match body a s with
          | .error _ | .ok (.stop _) => []
          | .ok (.continue s') =>
              ((cells s n).next, s') :: savedSteps cells body fuel (cells s n).next s'

/-- The call fails with an error of one kind or returns a value of another. -/
def Outcome (failure : ε → Prop) (success : α → Prop) : Except ε α → Prop
  | .error e => failure e
  | .ok a => success a

theorem Outcome.imp {failure : ε → Prop} {success success' : α → Prop}
    (himp : ∀ a, success a → success' a) {result : Except ε α}
    (h : Outcome failure success result) : Outcome failure success' result := by
  cases result with
  | error e => exact h
  | ok a => exact himp a h

theorem Outcome.weaken {failure failure' : ε → Prop} {success : α → Prop}
    (himp : ∀ e, failure e → failure' e) {result : Except ε α}
    (h : Outcome failure success result) : Outcome failure' success result := by
  cases result with
  | error e => exact himp e h
  | ok a => exact h

def Turn.state : Turn σ → σ
  | .continue s => s
  | .stop s => s

variable {cells : σ → Nat → Cell α} {stale exhausted : ε}

theorem liveWalk_outcome {body : α → σ → Except ε σ} {E : ε → Prop} {P : σ → Prop}
    (hstale : E stale) (hexhausted : E exhausted)
    (hbody : ∀ s n a, P s → (cells s n).data = some a → Outcome E P (body a s))
    {fuel : Nat} {start : Option Nat} {s : σ} (hs : P s) :
    Outcome E P (liveWalk cells stale exhausted body fuel start s) := by
  induction fuel generalizing start s with
  | zero =>
      cases start with
      | none => exact hs
      | some n => exact hexhausted
  | succ fuel ih =>
      cases start with
      | none => exact hs
      | some n =>
          simp only [liveWalk]
          cases hd : (cells s n).data with
          | none => exact hstale
          | some a =>
              have houtcome := hbody s n a hs hd
              simp only
              generalize body a s = result at houtcome ⊢
              cases result with
              | error e => exact houtcome
              | ok t => exact ih houtcome

/-- A loop by what is left to visit: the body may take cells off it, but brings
none back. -/
theorem liveWalk_remaining {body : α → σ → Except ε σ} {E : ε → Prop}
    {P : List Nat → σ → Prop} {fuel : Nat} {todo : List Nat} {s : σ}
    (hbody : ∀ n todo₁ t, P (n :: todo₁) t → ∃ a, (cells t n).data = some a ∧
      ((a, t) ∈ liveTurns cells body fuel todo.head? s →
        Outcome E (fun t' => ∃ todo₂, todo₂.length ≤ todo₁.length ∧
          (cells t' n).next = todo₂.head? ∧ P todo₂ t') (body a t)))
    (hfuel : todo.length ≤ fuel) (hs : P todo s) :
    Outcome E (P []) (liveWalk cells stale exhausted body fuel todo.head? s) := by
  induction fuel generalizing todo s with
  | zero =>
      cases todo with
      | nil => exact hs
      | cons n todo => cases hfuel
  | succ fuel ih =>
      cases todo with
      | nil => exact hs
      | cons n todo =>
          obtain ⟨a, hdata, hturn⟩ := hbody n todo s hs
          have hturn := hturn (by simp only [List.head?_cons, liveTurns, hdata, List.mem_cons_self])
          simp only [List.head?_cons, liveWalk, hdata]
          cases hcall : body a s with
          | error e =>
              rw [hcall] at hturn
              exact hturn
          | ok t =>
              rw [hcall] at hturn
              obtain ⟨todo', hlength, hnext, ht⟩ := hturn
              rw [List.length_cons] at hfuel
              simp only [List.head?_cons, liveTurns, hdata, hcall, hnext, List.mem_cons] at hbody
              simp only [hnext]
              refine ih (fun m todo₁ u hu => ?_) (by omega) ht
              obtain ⟨c, hc, houtcome⟩ := hbody m todo₁ u hu
              exact ⟨c, hc, fun hmem => houtcome (.inr hmem)⟩

theorem savedWalk_outcome {body : α → σ → Except ε (Turn σ)} {E : ε → Prop} {P : σ → Prop}
    (hstale : E stale) (hexhausted : E exhausted)
    (hbody : ∀ s n a, P s → (cells s n).data = some a →
      Outcome E (fun turn => P turn.state) (body a s))
    {fuel : Nat} {start : Option Nat} {s : σ} (hs : P s) :
    Outcome E P (savedWalk cells stale exhausted body fuel start s) := by
  induction fuel generalizing start s with
  | zero =>
      cases start with
      | none => exact hs
      | some n => exact hexhausted
  | succ fuel ih =>
      cases start with
      | none => exact hs
      | some n =>
          simp only [savedWalk]
          cases hd : (cells s n).data with
          | none => exact hstale
          | some a =>
              have houtcome := hbody s n a hs hd
              simp only
              generalize body a s = result at houtcome ⊢
              cases result with
              | error e => exact houtcome
              | ok turn =>
                  cases turn with
                  | stop t => exact houtcome
                  | «continue» t => exact ih houtcome

theorem liveWalk_invariant {body : α → σ → Except ε σ} (P : σ → Prop)
    (hbody : ∀ s n a s', P s → (cells s n).data = some a → body a s = .ok s' → P s')
    {fuel : Nat} {start : Option Nat} {s s' : σ} (hs : P s)
    (hrun : liveWalk cells stale exhausted body fuel start s = .ok s') : P s' := by
  induction fuel generalizing start s with
  | zero =>
      cases start with
      | none =>
          simp only [liveWalk, Except.ok.injEq] at hrun
          exact hrun ▸ hs
      | some n => cases hrun
  | succ fuel ih =>
      cases start with
      | none =>
          simp only [liveWalk, Except.ok.injEq] at hrun
          exact hrun ▸ hs
      | some n =>
          simp only [liveWalk] at hrun
          cases hd : (cells s n).data with
          | none => simp [hd] at hrun
          | some a =>
              cases hb : body a s with
              | error e => simp [hd, hb] at hrun
              | ok t =>
                  simp only [hd, hb] at hrun
                  exact ih (hbody s n a t hs hd hb) hrun

/-- What the body preserves, continuing or not, the whole loop preserves. -/
theorem savedWalk_invariant {body : α → σ → Except ε (Turn σ)} (P : σ → Prop)
    (hcontinue : ∀ s n a s', P s → (cells s n).data = some a →
      body a s = .ok (.continue s') → P s')
    (hstop : ∀ s n a s', P s → (cells s n).data = some a →
      body a s = .ok (.stop s') → P s')
    {fuel : Nat} {start : Option Nat} {s s' : σ} (hs : P s)
    (hrun : savedWalk cells stale exhausted body fuel start s = .ok s') : P s' := by
  induction fuel generalizing start s with
  | zero =>
      cases start with
      | none =>
          simp only [savedWalk, Except.ok.injEq] at hrun
          exact hrun ▸ hs
      | some n => cases hrun
  | succ fuel ih =>
      cases start with
      | none =>
          simp only [savedWalk, Except.ok.injEq] at hrun
          exact hrun ▸ hs
      | some n =>
          simp only [savedWalk] at hrun
          cases hd : (cells s n).data with
          | none => simp [hd] at hrun
          | some a =>
              cases hb : body a s with
              | error e => simp [hd, hb] at hrun
              | ok turn =>
                  cases turn with
                  | stop t =>
                      simp only [hd, hb, Except.ok.injEq] at hrun
                      exact hrun ▸ hstop s n a t hs hd hb
                  | «continue» t =>
                      simp only [hd, hb] at hrun
                      exact ih (hcontinue s n a t hs hd hb) hrun

theorem liveWalk_turns {body : α → σ → Except ε σ} (P : σ → Prop) {fuel : Nat}
    {start : Option Nat} {s s' : σ}
    (hturn : ∀ t n a t', P t → (cells t n).data = some a →
      (a, t) ∈ liveTurns cells body fuel start s → body a t = .ok t' → P t')
    (hs : P s) (hrun : liveWalk cells stale exhausted body fuel start s = .ok s') : P s' := by
  induction fuel generalizing start s with
  | zero =>
      cases start with
      | none =>
          simp only [liveWalk, Except.ok.injEq] at hrun
          exact hrun ▸ hs
      | some n => cases hrun
  | succ fuel ih =>
      cases start with
      | none =>
          simp only [liveWalk, Except.ok.injEq] at hrun
          exact hrun ▸ hs
      | some n =>
          simp only [liveWalk] at hrun
          cases hd : (cells s n).data with
          | none => simp [hd] at hrun
          | some a =>
              cases hb : body a s with
              | error e => simp [hd, hb] at hrun
              | ok t =>
                  simp only [hd, hb] at hrun
                  simp only [liveTurns, hd, hb, List.mem_cons] at hturn
                  refine ih (fun u m c u' hu hc hmem hcall => ?_)
                    (hturn s n a t hs hd (.inl rfl) hb) hrun
                  exact hturn u m c u' hu hc (.inr hmem) hcall

theorem liveTurns_invariant {body : α → σ → Except ε σ} (P : σ → Prop)
    (hbody : ∀ s n a s', P s → (cells s n).data = some a → body a s = .ok s' → P s')
    {fuel : Nat} {start : Option Nat} {s : σ} (hs : P s) :
    ∀ turn ∈ liveTurns cells body fuel start s, P turn.2 := by
  induction fuel generalizing start s with
  | zero =>
      intro turn hturn
      cases start with
      | none => cases hturn
      | some n => cases hturn
  | succ fuel ih =>
      intro turn hturn
      cases start with
      | none => cases hturn
      | some n =>
          cases hd : (cells s n).data with
          | none => simp [liveTurns, hd] at hturn
          | some a =>
              simp only [liveTurns, hd, List.mem_cons] at hturn
              obtain rfl | hturn := hturn
              · exact hs
              · cases hb : body a s with
                | error e => simp [hb] at hturn
                | ok t =>
                    simp only [hb] at hturn
                    exact ih (hbody s n a t hs hd hb) turn hturn

theorem savedTurns_invariant {body : α → σ → Except ε (Turn σ)} (P : σ → Prop)
    (hbody : ∀ s n a s', P s → (cells s n).data = some a → body a s = .ok (.continue s') → P s')
    {fuel : Nat} {start : Option Nat} {s : σ} (hs : P s) :
    ∀ turn ∈ savedTurns cells body fuel start s, P turn.2 := by
  induction fuel generalizing start s with
  | zero =>
      intro turn hturn
      cases start with
      | none => cases hturn
      | some n => cases hturn
  | succ fuel ih =>
      intro turn hturn
      cases start with
      | none => cases hturn
      | some n =>
          cases hd : (cells s n).data with
          | none => simp [savedTurns, hd] at hturn
          | some a =>
              simp only [savedTurns, hd, List.mem_cons] at hturn
              obtain rfl | hturn := hturn
              · exact hs
              · cases hb : body a s with
                | error e => simp [hb] at hturn
                | ok go =>
                    cases go with
                    | stop t => simp [hb] at hturn
                    | «continue» t =>
                        simp only [hb] at hturn
                        exact ih (hbody s n a t hs hd hb) turn hturn

/-- As `liveWalk_turns`, by what is left to visit. -/
theorem liveWalk_visits {body : α → σ → Except ε σ} {P : List Nat → σ → Prop} {fuel : Nat}
    {todo : List Nat} {s s' : σ}
    (hturn : ∀ n todo' t a t', P (n :: todo') t → (cells t n).data = some a →
      (a, t) ∈ liveTurns cells body fuel todo.head? s → body a t = .ok t' →
      ∃ rest, (cells t' n).next = rest.head? ∧ P rest t')
    (hs : P todo s)
    (hrun : liveWalk cells stale exhausted body fuel todo.head? s = .ok s') : P [] s' := by
  induction fuel generalizing todo s with
  | zero =>
      cases todo with
      | nil =>
          simp only [List.head?_nil, liveWalk, Except.ok.injEq] at hrun
          exact hrun ▸ hs
      | cons n todo => cases hrun
  | succ fuel ih =>
      cases todo with
      | nil =>
          simp only [List.head?_nil, liveWalk, Except.ok.injEq] at hrun
          exact hrun ▸ hs
      | cons n todo =>
          simp only [List.head?_cons, liveWalk] at hrun
          cases hd : (cells s n).data with
          | none => simp [hd] at hrun
          | some a =>
              cases hb : body a s with
              | error e => simp [hd, hb] at hrun
              | ok t =>
                  simp only [hd, hb] at hrun
                  simp only [List.head?_cons, liveTurns, hd, hb, List.mem_cons] at hturn
                  obtain ⟨rest, hnext, ht⟩ := hturn n todo s a t hs hd (.inl rfl) hb
                  rw [hnext] at hrun hturn
                  refine ih (fun m todo' u c u' hu hc hmem hcall => ?_) ht hrun
                  exact hturn m todo' u c u' hu hc (.inr hmem) hcall

/-- As `liveWalk_visits`, with an invariant that may refer to the turns so far. -/
theorem liveWalk_history {body : α → σ → Except ε σ} {P : List (α × σ) → List Nat → σ → Prop}
    (hturn : ∀ past n todo t a t', P past (n :: todo) t → (cells t n).data = some a →
      body a t = .ok t' → ∃ rest, (cells t' n).next = rest.head? ∧ P (past ++ [(a, t)]) rest t')
    {fuel : Nat} {past : List (α × σ)} {todo : List Nat} {s s' : σ} (hs : P past todo s)
    (hrun : liveWalk cells stale exhausted body fuel todo.head? s = .ok s') :
    P (past ++ liveTurns cells body fuel todo.head? s) [] s' := by
  induction fuel generalizing past todo s with
  | zero =>
      cases todo with
      | nil =>
          simp only [List.head?_nil, liveWalk, Except.ok.injEq] at hrun
          simpa [liveTurns] using hrun ▸ hs
      | cons n todo => cases hrun
  | succ fuel ih =>
      cases todo with
      | nil =>
          simp only [List.head?_nil, liveWalk, Except.ok.injEq] at hrun
          simpa [liveTurns] using hrun ▸ hs
      | cons n todo =>
          simp only [List.head?_cons, liveWalk] at hrun
          cases hd : (cells s n).data with
          | none => simp [hd] at hrun
          | some a =>
              cases hb : body a s with
              | error e => simp [hd, hb] at hrun
              | ok t =>
                  simp only [hd, hb] at hrun
                  obtain ⟨rest, hnext, ht⟩ := hturn past n todo s a t hs hd hb
                  rw [hnext] at hrun
                  have hrest := ih ht hrun
                  rw [List.append_assoc, List.singleton_append] at hrest
                  simpa only [List.head?_cons, liveTurns, hd, hb, hnext] using hrest

theorem savedWalk_turns {body : α → σ → Except ε (Turn σ)} (P : σ → Prop) {fuel : Nat}
    {start : Option Nat} {s s' : σ}
    (hturn : ∀ t n a turn, P t → (cells t n).data = some a →
      (a, t) ∈ savedTurns cells body fuel start s → body a t = .ok turn → P turn.state)
    (hs : P s) (hrun : savedWalk cells stale exhausted body fuel start s = .ok s') : P s' := by
  induction fuel generalizing start s with
  | zero =>
      cases start with
      | none =>
          simp only [savedWalk, Except.ok.injEq] at hrun
          exact hrun ▸ hs
      | some n => cases hrun
  | succ fuel ih =>
      cases start with
      | none =>
          simp only [savedWalk, Except.ok.injEq] at hrun
          exact hrun ▸ hs
      | some n =>
          simp only [savedWalk] at hrun
          cases hd : (cells s n).data with
          | none => simp [hd] at hrun
          | some a =>
              cases hb : body a s with
              | error e => simp [hd, hb] at hrun
              | ok turn =>
                  have hfirst := hturn s n a turn hs hd (by simp [savedTurns, hd]) hb
                  cases turn with
                  | stop t =>
                      simp only [hd, hb, Except.ok.injEq] at hrun
                      exact hrun ▸ hfirst
                  | «continue» t =>
                      simp only [hd, hb] at hrun
                      simp only [savedTurns, hd, hb, List.mem_cons] at hturn
                      refine ih (fun u m c turn hu hc hmem hcall => ?_) hfirst hrun
                      exact hturn u m c turn hu hc (.inr hmem) hcall

/-- A loop by what is left to visit, whose body may return from it. Where the saved
cell was freed the loop fails, so the body has to say what is left only if it was not. -/
theorem savedWalk_remaining_or_stop {body : α → σ → Except ε (Turn σ)}
    {P : List Nat → σ → Prop} {Q : σ → Prop} (hend : ∀ s, P [] s → Q s)
    (hbody : ∀ n todo s a s', P (n :: todo) s → (cells s n).data = some a →
      body a s = .ok (.continue s') → (cells s n).next = todo.head? ∧
        ((∀ m, todo.head? = some m → (cells s' m).data ≠ none) →
          ∃ todo', todo'.head? = todo.head? ∧ P todo' s'))
    (hstop : ∀ n todo s a s', P (n :: todo) s → (cells s n).data = some a →
      body a s = .ok (.stop s') → Q s')
    {fuel : Nat} {todo : List Nat} {s s' : σ} (hs : P todo s)
    (hrun : savedWalk cells stale exhausted body fuel todo.head? s = .ok s') : Q s' := by
  induction fuel generalizing todo s with
  | zero =>
      cases todo with
      | nil =>
          simp only [List.head?_nil, savedWalk, Except.ok.injEq] at hrun
          exact hrun ▸ hend s hs
      | cons n todo => cases hrun
  | succ fuel ih =>
      cases todo with
      | nil =>
          simp only [List.head?_nil, savedWalk, Except.ok.injEq] at hrun
          exact hrun ▸ hend s hs
      | cons n todo =>
          simp only [List.head?_cons, savedWalk] at hrun
          cases hd : (cells s n).data with
          | none => simp [hd] at hrun
          | some a =>
              cases hb : body a s with
              | error e => simp [hd, hb] at hrun
              | ok turn =>
                  cases turn with
                  | stop t =>
                      simp only [hd, hb, Except.ok.injEq] at hrun
                      exact hrun ▸ hstop n todo s a t hs hd hb
                  | «continue» t =>
                      simp only [hd, hb] at hrun
                      obtain ⟨hnext, hleft⟩ := hbody n todo s a t hs hd hb
                      rw [hnext] at hrun
                      have hsaved : ∀ m, todo.head? = some m → (cells t m).data ≠ none := by
                        intro m hm hfreed
                        rw [hm] at hrun
                        cases fuel with
                        | zero => cases hrun
                        | succ fuel => simp [savedWalk, hfreed] at hrun
                      obtain ⟨todo', hhead, ht⟩ := hleft hsaved
                      exact ih ht (hhead ▸ hrun)

/-- A loop keeps its saved cells exactly if every turn does that goes on. -/
theorem savedSteps_linked_iff {body : α → σ → Except ε (Turn σ)} (P : List Nat → σ → Prop)
    (linked : Nat → σ → Prop) (keeps : α → σ → Prop)
    (hturn : ∀ n todo s a s', P (n :: todo) s → (cells s n).data = some a →
      body a s = .ok (.continue s') → (cells s n).next = todo.head? ∧
        (keeps a s ↔ ∀ m, todo.head? = some m → linked m s') ∧
        (keeps a s → ∃ todo', todo'.head? = todo.head? ∧ P todo' s'))
    (hleave : ∀ n todo s a, P (n :: todo) s → (cells s n).data = some a →
      (∀ s', body a s ≠ .ok (.continue s')) → keeps a s)
    {fuel : Nat} {todo : List Nat} {s : σ} (hs : P todo s) :
    (∀ step ∈ savedSteps cells body fuel todo.head? s, ∀ m, step.1 = some m →
        linked m step.2) ↔
      ∀ turn ∈ savedTurns cells body fuel todo.head? s, keeps turn.1 turn.2 := by
  induction fuel generalizing todo s with
  | zero => cases todo <;> simp [savedSteps, savedTurns]
  | succ fuel ih =>
      cases todo with
      | nil => simp [savedSteps, savedTurns]
      | cons n todo =>
          simp only [List.head?_cons, savedSteps, savedTurns]
          cases hd : (cells s n).data with
          | none => simp
          | some a =>
              simp only
              have hleave := hleave n todo s a hs hd
              cases hb : body a s with
              | error e => simpa using hleave fun s' h => by simp [hb] at h
              | ok turn =>
                  cases turn with
                  | stop t => simpa using hleave fun s' h => by simp [hb] at h
                  | «continue» t =>
                      obtain ⟨hnext, hkeeps, hrest⟩ := hturn n todo s a t hs hd hb
                      simp only [hnext, List.forall_mem_cons, ← hkeeps]
                      refine and_congr_right fun hkept => ?_
                      obtain ⟨todo', hhead, ht⟩ := hrest hkept
                      rw [← hhead]
                      exact ih ht

/-- A loop that keeps its saved cells, by what is left to visit and the turns so far. -/
theorem savedWalk_history {body : α → σ → Except ε (Turn σ)}
    (P : List (α × σ) → List Nat → σ → Prop)
    (hturn : ∀ past n todo s a s', P past (n :: todo) s → (cells s n).data = some a →
      body a s = .ok (.continue s') → (cells s n).next = todo.head? ∧
        ((∀ m, todo.head? = some m → (cells s' m).data ≠ none) →
          ∃ todo', todo'.head? = todo.head? ∧ P (past ++ [(a, s)]) todo' s'))
    {fuel : Nat} {past : List (α × σ)} {todo : List Nat} {s s' : σ} (hs : P past todo s)
    (hstop : ∀ turn ∈ savedTurns cells body fuel todo.head? s,
      ∀ t, body turn.1 turn.2 ≠ .ok (.stop t))
    (hrun : savedWalk cells stale exhausted body fuel todo.head? s = .ok s') :
    P (past ++ savedTurns cells body fuel todo.head? s) [] s' := by
  induction fuel generalizing past todo s with
  | zero =>
      cases todo with
      | nil =>
          simp only [List.head?_nil, savedWalk, Except.ok.injEq] at hrun
          simpa [savedTurns] using hrun ▸ hs
      | cons n todo => cases hrun
  | succ fuel ih =>
      cases todo with
      | nil =>
          simp only [List.head?_nil, savedWalk, Except.ok.injEq] at hrun
          simpa [savedTurns] using hrun ▸ hs
      | cons n todo =>
          simp only [List.head?_cons, savedWalk] at hrun
          simp only [List.head?_cons, savedTurns] at hstop ⊢
          cases hd : (cells s n).data with
          | none => simp [hd] at hrun
          | some a =>
              simp only [hd] at hrun hstop ⊢
              cases hb : body a s with
              | error e => simp [hb] at hrun
              | ok turn =>
                  cases turn with
                  | stop t => exact absurd hb (hstop (a, s) List.mem_cons_self t)
                  | «continue» t =>
                      simp only [hb] at hrun hstop ⊢
                      obtain ⟨hnext, hleft⟩ := hturn past n todo s a t hs hd hb
                      rw [hnext] at hrun hstop ⊢
                      have hsaved : ∀ m, todo.head? = some m → (cells t m).data ≠ none := by
                        intro m hm hfreed
                        rw [hm] at hrun
                        cases fuel with
                        | zero => cases hrun
                        | succ fuel => simp [savedWalk, hfreed] at hrun
                      obtain ⟨todo', hhead, ht⟩ := hleft hsaved
                      rw [← hhead] at hrun hstop ⊢
                      have hrest := ih ht
                        (fun turn hmem => hstop turn (List.mem_cons_of_mem _ hmem)) hrun
                      rwa [List.append_assoc, List.singleton_append] at hrest

/-- The first cells of a list are passed over by a body that does nothing for them. -/
theorem savedWalk_skip {body : α → σ → Except ε (Turn σ)} {s : σ} {before : Option Nat}
    {pre todo : List Nat} (hlinked : Linked (cells s) before (pre ++ todo) none)
    (hbody : ∀ n ∈ pre, ∀ a, (cells s n).data = some a → body a s = .ok (.continue s))
    (fuel : Nat) :
    savedWalk cells stale exhausted body (pre.length + fuel) (pre ++ todo).head? s =
      savedWalk cells stale exhausted body fuel todo.head? s := by
  induction pre generalizing before with
  | nil => rw [List.length_nil, Nat.zero_add, List.nil_append]
  | cons n pre ih =>
      obtain ⟨-, hnext, hdata, hrest⟩ := hlinked
      obtain ⟨a, ha⟩ := Option.isSome_iff_exists.mp hdata
      rw [List.length_cons, Nat.add_right_comm, List.cons_append, List.head?_cons]
      simp only [savedWalk, ha, hbody n List.mem_cons_self a ha]
      rw [show (cells s n).next = (pre ++ todo).head? by simpa using hnext]
      exact ih hrest fun m hm => hbody m (List.mem_cons_of_mem n hm)

theorem savedWalk_still {body : α → σ → Except ε (Turn σ)} {s : σ} {before : Option Nat}
    {todo : List Nat} {fuel : Nat} (hlinked : Linked (cells s) before todo none)
    (hfuel : todo.length ≤ fuel)
    (hbody : ∀ a, body a s = .ok (.continue s) ∨ body a s = .ok (.stop s)) :
    savedWalk cells stale exhausted body fuel todo.head? s = .ok s := by
  induction todo generalizing before fuel with
  | nil => cases fuel <;> rfl
  | cons n todo ih =>
      obtain ⟨-, hnext, hdata, hrest⟩ := hlinked
      obtain ⟨a, ha⟩ := Option.isSome_iff_exists.mp hdata
      cases fuel with
      | zero => simp at hfuel
      | succ fuel =>
          simp only [List.head?_cons, savedWalk, ha]
          rcases hbody a with hb | hb
          · simp only [hb]
            rw [show (cells s n).next = todo.head? by simpa using hnext]
            exact ih hrest (by simpa using hfuel)
          · simp only [hb]

end LinkedCells
