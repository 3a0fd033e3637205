import LogicTutor.Proofs.Formula.Numbering

/-! The grammar of formulas as a relation between lists of tokens and trees. The parser reads a
tree off a stream exactly if the stream ends without a stray character and its tokens derive that
tree over the atoms that their names are resolved to. -/
namespace LogicTutor

namespace TokenStream

/-- The stream begins with the tokens `ts` and goes on as `r`. -/
inductive Reads : TokenStream → List Token → TokenStream → Prop where
  | nil (s : TokenStream) : Reads s [] s
  | cons {t n s ts r} (h : Reads s ts r) : Reads (.token t n s) (t :: ts) r

variable {s r q : TokenStream} {ts us : List Token} {t : Token} {n : Nat}

theorem Reads.append (h : s.Reads ts r) (h' : r.Reads us q) : s.Reads (ts ++ us) q := by
  induction h with
  | nil => exact h'
  | cons h ih => exact .cons (ih h')

theorem Reads.snoc (h : s.Reads ts (.token t n r)) : s.Reads (ts ++ [t]) r :=
  h.append (.cons (.nil r))

theorem Reads.exists_middle (h : s.Reads (ts ++ us) q) : ∃ r, s.Reads ts r ∧ r.Reads us q := by
  induction ts generalizing s with
  | nil => exact ⟨s, .nil s, h⟩
  | cons t ts ih =>
    cases h with
    | cons h =>
      obtain ⟨r, hr, hq⟩ := ih h
      exact ⟨r, .cons hr, hq⟩

theorem Reads.tokens_eq (h : s.Reads ts .finish) : s.tokens = ts := by
  generalize hr : TokenStream.finish = r at h
  induction h with
  | nil =>
    subst hr
    rfl
  | cons h ih => simp only [tokens, ih hr]

/-- The stream is at its end, or goes on with a token that is none of these. -/
def Past (ts : List Token) : TokenStream → Prop
  | .finish => True
  | .stray _ _ => False
  | .token t _ _ => t ∉ ts

theorem Past.mono (h : r.Past ts) (hu : us ⊆ ts) : r.Past us := by
  cases r with
  | finish => trivial
  | stray c n => exact h.elim
  | token t n s => exact fun ht => h (hu ht)

end TokenStream

namespace Formula.Parser

open TokenStream

/-- The layers of the grammar, from the weakest to the strongest binding. -/
inductive Layer where
  | implication | disjunction | conjunction | negation | primary
  deriving DecidableEq, Repr

/-- The tokens spell the tree in the given layer of the grammar, where `own` gives the atoms of the
names. -/
inductive Derives (own : String → Atom) : Layer → List Token → Formula → Prop where
  | disjunction {ts x} (h : Derives own .disjunction ts x) : Derives own .implication ts x
  | implies {ts us x y} (hx : Derives own .disjunction ts x)
      (hy : Derives own .implication us y) :
      Derives own .implication (ts ++ .implies :: us) (.imp x y)
  | conjunction {ts x} (h : Derives own .conjunction ts x) : Derives own .disjunction ts x
  | or {ts us x y} (hx : Derives own .disjunction ts x)
      (hy : Derives own .conjunction us y) :
      Derives own .disjunction (ts ++ .or :: us) (.binary .or x y)
  | negation {ts x} (h : Derives own .negation ts x) : Derives own .conjunction ts x
  | and {ts us x y} (hx : Derives own .conjunction ts x)
      (hy : Derives own .negation us y) :
      Derives own .conjunction (ts ++ .and :: us) (.binary .and x y)
  | primary {ts x} (h : Derives own .primary ts x) : Derives own .negation ts x
  | not {ts x} (h : Derives own .negation ts x) : Derives own .negation (.not :: ts) (.neg x)
  | atom (name) : Derives own .primary [.atom name] (.var (own name))
  | truth (b) : Derives own .primary [.truth b] (.const b)
  | parentheses {ts x} (h : Derives own .implication ts x) :
      Derives own .primary (.opening :: (ts ++ [.closing])) x

/-- What a phrase comes to, without the measure of what is left. -/
def outcome {P : TokenStream → Prop} (e : Except ParseError (Formula × Glossary × { r // P r })) :
    Except ParseError (Formula × Glossary × TokenStream) :=
  e.map fun y => (y.1, y.2.1, y.2.2.1)

variable {d d' e' : Glossary} {s r : TokenStream} {x y : Formula} {ts us : List Token}
  {own : String → Atom}

theorem outcome_eq_ok {P : TokenStream → Prop}
    {e : Except ParseError (Formula × Glossary × { r // P r })} :
    outcome e = .ok (x, d, r) ↔ ∃ h : P r, e = .ok (x, d, ⟨r, h⟩) := by
  constructor
  · intro h
    match e, h with
    | .ok (_, _, ⟨_, hq⟩), rfl => exact ⟨hq, rfl⟩
  · rintro ⟨h, rfl⟩
    rfl

theorem remainder_of_outcome {P : TokenStream → Prop}
    {e : Except ParseError (Formula × Glossary × { r // P r })}
    (h : outcome e = .ok (x, d, r)) : P r :=
  (outcome_eq_ok.mp h).1

/-! What each phrase comes to, in terms of what its parts come to. -/

theorem outcome_implication (d : Glossary) (s : TokenStream) : outcome (implication d s) =
    match outcome (disjunction d s) with
    | .error e => .error e
    | .ok (x, d, .token .implies _ r) =>
      match outcome (implication d r) with
      | .error e => .error e
      | .ok (y, d, r') => .ok (.imp x y, d, r')
    | .ok (_, _, .stray c n) => .error (.stray c n)
    | .ok y => .ok y := by
  rw [implication.eq_def]
  rcases disjunction d s with e | ⟨x, d, ⟨_ | ⟨c, n⟩ | ⟨t, n, r⟩, hr⟩⟩
  · rfl
  · rfl
  · rfl
  · cases t with
    | implies =>
      rcases h : implication d r with e | ⟨y, d', r', hr'⟩ <;> simp [h, outcome, Except.map]
    | _ => rfl

theorem outcome_implication_past (h : outcome (disjunction d s) = .ok (x, d', r))
    (hr : r.Past [.implies]) : outcome (implication d s) = .ok (x, d', r) := by
  rw [outcome_implication, h]
  cases r with
  | finish => rfl
  | stray c n => exact hr.elim
  | token t n q =>
    cases t with
    | implies => simp [Past] at hr
    | _ => rfl

theorem outcome_disjunction (d : Glossary) (s : TokenStream) : outcome (disjunction d s) =
    match outcome (conjunction d s) with
    | .error e => .error e
    | .ok (x, d, r) => outcome (disjuncts x d r) := by
  rw [disjunction.eq_def]
  rcases conjunction d s with e | ⟨x, d', r, hr⟩
  · rfl
  · rcases h : disjuncts x d' r with e | ⟨y, e', r', hr'⟩ <;> simp [h, outcome, Except.map]

theorem outcome_conjunction (d : Glossary) (s : TokenStream) : outcome (conjunction d s) =
    match outcome (negation d s) with
    | .error e => .error e
    | .ok (x, d, r) => outcome (conjuncts x d r) := by
  rw [conjunction.eq_def]
  rcases negation d s with e | ⟨x, d', r, hr⟩
  · rfl
  · rcases h : conjuncts x d' r with e | ⟨y, e', r', hr'⟩ <;> simp [h, outcome, Except.map]

theorem outcome_disjuncts_or (x : Formula) (d : Glossary) (n : Nat) (s : TokenStream) :
    outcome (disjuncts x d (.token .or n s)) =
      match outcome (conjunction d s) with
      | .error e => .error e
      | .ok (y, d, r) => outcome (disjuncts (.binary .or x y) d r) := by
  rw [disjuncts.eq_def]
  rcases h : conjunction d s with e | ⟨y, d', r, hr⟩
  · simp [h, outcome, Except.map]
  · rcases h' : disjuncts (.binary .or x y) d' r with e | ⟨z, e', r', hr'⟩ <;>
      simp [h, h', outcome, Except.map]

theorem outcome_conjuncts_and (x : Formula) (d : Glossary) (n : Nat) (s : TokenStream) :
    outcome (conjuncts x d (.token .and n s)) =
      match outcome (negation d s) with
      | .error e => .error e
      | .ok (y, d, r) => outcome (conjuncts (.binary .and x y) d r) := by
  rw [conjuncts.eq_def]
  rcases h : negation d s with e | ⟨y, d', r, hr⟩
  · simp [h, outcome, Except.map]
  · rcases h' : conjuncts (.binary .and x y) d' r with e | ⟨z, e', r', hr'⟩ <;>
      simp [h, h', outcome, Except.map]

theorem outcome_conjuncts_stray (x : Formula) (d : Glossary) (c : Char) (n : Nat) :
    outcome (conjuncts x d (.stray c n)) = .error (.stray c n) := by
  rw [conjuncts.eq_def]
  rfl

theorem outcome_disjuncts_stray (x : Formula) (d : Glossary) (c : Char) (n : Nat) :
    outcome (disjuncts x d (.stray c n)) = .error (.stray c n) := by
  rw [disjuncts.eq_def]
  rfl

theorem outcome_conjuncts_past (h : r.Past [.and]) :
    outcome (conjuncts x d r) = .ok (x, d, r) := by
  rw [conjuncts.eq_def]
  split
  next => simp [Past] at h
  next => exact h.elim
  next => rfl

theorem outcome_disjuncts_past (h : r.Past [.or]) :
    outcome (disjuncts x d r) = .ok (x, d, r) := by
  rw [disjuncts.eq_def]
  split
  next => simp [Past] at h
  next => exact h.elim
  next => rfl

theorem outcome_negation_not (d : Glossary) (n : Nat) (s : TokenStream) :
    outcome (negation d (.token .not n s)) =
      match outcome (negation d s) with
      | .error e => .error e
      | .ok (x, d, r) => .ok (.neg x, d, r) := by
  rw [negation.eq_def]
  rcases h : negation d s with e | ⟨y, d', r, hr⟩ <;> simp [h, outcome, Except.map]

theorem outcome_negation_primary (h : ∀ n r, s ≠ .token .not n r) :
    outcome (negation d s) = outcome (primary d s) := by
  rw [negation.eq_def]
  split
  next n r => exact absurd rfl (h n r)
  next => rfl

theorem outcome_primary_atom (d : Glossary) (name : String) (n : Nat) (s : TokenStream) :
    outcome (primary d (.token (.atom name) n s)) =
      .ok (.var (d.resolve name).1, (d.resolve name).2, s) := by
  rw [primary.eq_def]
  rfl

theorem outcome_primary_opening (d : Glossary) (n : Nat) (s : TokenStream) :
    outcome (primary d (.token .opening n s)) =
      match outcome (implication d s) with
      | .error e => .error e
      | .ok (x, d, .token .closing _ r) => .ok (x, d, r)
      | .ok (_, _, .stray c n) => .error (.stray c n)
      | .ok (_, _, .finish) => .error (.unclosed none)
      | .ok (_, _, .token t _ _) => .error (.unclosed (some t)) := by
  rw [primary.eq_def]
  rcases h : implication d s with e | ⟨x, d', ⟨_ | ⟨c, n⟩ | ⟨t, n, r⟩, hr⟩⟩
  · simp [h, outcome, Except.map]
  · simp [h, outcome, Except.map]
  · simp [h, outcome, Except.map]
  · cases t <;> simp [h, outcome, Except.map]

theorem conjuncts_eq_ok (h : outcome (conjuncts x d s) = .ok (y, d', r)) :
    y = x ∧ d' = d ∧ r = s ∨
    ∃ n q z e p, s = .token .and n q ∧ outcome (negation d q) = .ok (z, e, p) ∧
      outcome (conjuncts (.binary .and x z) e p) = .ok (y, d', r) := by
  by_cases hs : s.Past [.and]
  · rw [outcome_conjuncts_past hs] at h
    cases h
    exact .inl ⟨rfl, rfl, rfl⟩
  · cases s with
    | finish => exact (hs trivial).elim
    | stray c n => simp [outcome_conjuncts_stray] at h
    | token t n q =>
      obtain rfl : t = .and := by simpa [Past] using hs
      rw [outcome_conjuncts_and] at h
      split at h
      next => cases h
      next z e p hz => exact .inr ⟨n, q, z, e, p, rfl, hz, h⟩

theorem disjuncts_eq_ok (h : outcome (disjuncts x d s) = .ok (y, d', r)) :
    y = x ∧ d' = d ∧ r = s ∨
    ∃ n q z e p, s = .token .or n q ∧ outcome (conjunction d q) = .ok (z, e, p) ∧
      outcome (disjuncts (.binary .or x z) e p) = .ok (y, d', r) := by
  by_cases hs : s.Past [.or]
  · rw [outcome_disjuncts_past hs] at h
    cases h
    exact .inl ⟨rfl, rfl, rfl⟩
  · cases s with
    | finish => exact (hs trivial).elim
    | stray c n => simp [outcome_disjuncts_stray] at h
    | token t n q =>
      obtain rfl : t = .or := by simpa [Past] using hs
      rw [outcome_disjuncts_or] at h
      split at h
      next => cases h
      next z e p hz => exact .inr ⟨n, q, z, e, p, rfl, hz, h⟩

theorem primary_eq_ok (h : outcome (primary d s) = .ok (x, d', r)) :
    (∃ name n, s = .token (.atom name) n r ∧ x = .var (d.resolve name).1 ∧
      d' = (d.resolve name).2) ∨
    (∃ b n, s = .token (.truth b) n r ∧ x = .const b ∧ d' = d) ∨
    ∃ n m q, s = .token .opening n q ∧
      outcome (implication d q) = .ok (x, d', .token .closing m r) := by
  cases s with
  | finish => simp [primary.eq_def, outcome, Except.map] at h
  | stray c n => simp [primary.eq_def, outcome, Except.map] at h
  | token t n q =>
    cases t with
    | atom name =>
      simp only [outcome_primary_atom, Except.ok.injEq, Prod.mk.injEq] at h
      exact .inl ⟨name, n, by rw [h.2.2], h.1.symm, h.2.1.symm⟩
    | truth b =>
      simp only [primary.eq_def, outcome, Except.map, Except.ok.injEq, Prod.mk.injEq] at h
      exact .inr (.inl ⟨b, n, by rw [h.2.2], h.1.symm, h.2.1.symm⟩)
    | opening =>
      rw [outcome_primary_opening] at h
      split at h
      case h_2 hq =>
        cases h
        exact .inr (.inr ⟨n, _, q, rfl, hq⟩)
      all_goals cases h
    | _ => simp [primary.eq_def, outcome, Except.map] at h

/-- From `s` up to `r` stand tokens whose names lead from `d` to `d'`, and over the atoms entered
there they derive `x` in the given layer. -/
def Spells (layer : Layer) (d : Glossary) (s : TokenStream) (x : Formula) (d' : Glossary)
    (r : TokenStream) : Prop :=
  ∃ ts, s.Reads ts r ∧ d' = d.after ts ∧ ∀ own, d'.Within own → Derives own layer ts x

namespace Spells

variable {l l' k : Layer} {t : Token} {n : Nat} {q : TokenStream} {z : Formula}

theorem lift (h : Spells l d s x d' r)
    (hl : ∀ own ts, Derives own l ts x → Derives own l' ts x) : Spells l' d s x d' r := by
  obtain ⟨ts, hts, hd, hx⟩ := h
  exact ⟨ts, hts, hd, fun own ho => hl own ts (hx own ho)⟩

theorem join (hx : Spells l d s x d' (.token t n q)) (hy : Spells l' d' q y e' r)
    (ht : t.name? = none) (hk : ∀ own ts us, Derives own l ts x → Derives own l' us y →
      Derives own k (ts ++ t :: us) z) : Spells k d s z e' r := by
  obtain ⟨ts, hts, rfl, hx⟩ := hx
  obtain ⟨us, hus, rfl, hy⟩ := hy
  refine ⟨ts ++ t :: us, hts.append (.cons hus), (Glossary.after_join ht d ts us).symm,
    fun own ho => ?_⟩
  exact hk own ts us (hx own ho.of_after) (hy own ho)

end Spells

/-- An implication that is read off a stream of less than `n` tokens is spelt there. -/
def Sound (n : Nat) : Prop :=
  ∀ d s x d' r, s.size < n → outcome (implication d s) = .ok (x, d', r) →
    Spells .implication d s x d' r

/-! A phrase that is read off at most `n` tokens is spelt there if the implications inside it
are. -/
section

variable {n : Nat} (ih : Sound n)

include ih

theorem Sound.primary (hn : s.size ≤ n) (h : outcome (primary d s) = .ok (x, d', r)) :
    Spells .primary d s x d' r := by
  obtain ⟨name, m, rfl, rfl, rfl⟩ | ⟨b, m, rfl, rfl, rfl⟩ | ⟨m, m', q, rfl, hi⟩ := primary_eq_ok h
  · exact ⟨_, .cons (.nil r), rfl, fun own ho => ho.own_eq ▸ .atom name⟩
  · exact ⟨_, .cons (.nil r), rfl, fun own _ => .truth b⟩
  · obtain ⟨ts, hts, rfl, hx⟩ := ih d q x d' _ hn hi
    exact ⟨_, .cons hts.snoc, (Glossary.after_parentheses d ts).symm,
      fun own ho => .parentheses (hx own ho)⟩

theorem Sound.negation (hn : s.size ≤ n) (h : outcome (negation d s) = .ok (x, d', r)) :
    Spells .negation d s x d' r := by
  induction s generalizing x r with
  | token t m q ihq =>
    by_cases ht : t = .not
    · subst ht
      rw [outcome_negation_not] at h
      split at h
      next => cases h
      next y e p hy =>
        cases h
        obtain ⟨ts, hts, rfl, hy⟩ := ihq (Nat.le_of_succ_le hn) hy
        refine ⟨_, .cons hts, ?_, fun own ho => .not (hy own ho)⟩
        rw [Glossary.after_cons, Glossary.after_of_name?_eq_none rfl]
    · rw [outcome_negation_primary (by simp [ht])] at h
      exact (ih.primary hn h).lift fun _ _ => .primary
  | _ =>
    rw [outcome_negation_primary (by simp)] at h
    exact (ih.primary hn h).lift fun _ _ => .primary

-- The chain before `s'` grows with each round, so the induction is on what is left to read.
theorem Sound.conjuncts {s' : TokenStream} (hn : s'.size ≤ n)
    (hx : Spells .conjunction d s x d' s')
    (h : outcome (conjuncts x d' s') = .ok (y, e', r)) : Spells .conjunction d s y e' r := by
  induction hk : s'.size using Nat.strongRecOn generalizing s' x d' with
  | ind k ihk =>
    obtain ⟨rfl, rfl, rfl⟩ | ⟨m, q, z, e, p, rfl, hz, h⟩ := conjuncts_eq_ok h
    · exact hx
    · have hq : q.size < k := hk ▸ Nat.lt_succ_self _
      have hp : p.size < q.size := remainder_of_outcome hz
      have hand := hx.join (ih.negation (by omega) hz) rfl fun _ _ _ => .and
      exact ihk p.size (by omega) (by omega) hand h rfl

theorem Sound.conjunction (hn : s.size ≤ n) (h : outcome (conjunction d s) = .ok (x, d', r)) :
    Spells .conjunction d s x d' r := by
  rw [outcome_conjunction] at h
  split at h
  next => cases h
  next y e q hy =>
    have hq : q.size < s.size := remainder_of_outcome hy
    exact ih.conjuncts (by omega) ((ih.negation hn hy).lift fun _ _ => .negation) h

theorem Sound.disjuncts {s' : TokenStream} (hn : s'.size ≤ n)
    (hx : Spells .disjunction d s x d' s')
    (h : outcome (disjuncts x d' s') = .ok (y, e', r)) : Spells .disjunction d s y e' r := by
  induction hk : s'.size using Nat.strongRecOn generalizing s' x d' with
  | ind k ihk =>
    obtain ⟨rfl, rfl, rfl⟩ | ⟨m, q, z, e, p, rfl, hz, h⟩ := disjuncts_eq_ok h
    · exact hx
    · have hq : q.size < k := hk ▸ Nat.lt_succ_self _
      have hp : p.size < q.size := remainder_of_outcome hz
      have hor := hx.join (ih.conjunction (by omega) hz) rfl fun _ _ _ => .or
      exact ihk p.size (by omega) (by omega) hor h rfl

theorem Sound.disjunction (hn : s.size ≤ n) (h : outcome (disjunction d s) = .ok (x, d', r)) :
    Spells .disjunction d s x d' r := by
  rw [outcome_disjunction] at h
  split at h
  next => cases h
  next y e q hy =>
    have hq : q.size < s.size := remainder_of_outcome hy
    exact ih.disjuncts (by omega) ((ih.conjunction hn hy).lift fun _ _ => .conjunction) h

end

theorem sound (n : Nat) : Sound n := by
  induction n using Nat.strongRecOn with
  | ind n ih =>
    intro d s x d' r hn h
    have ihs : Sound s.size := ih s.size hn
    rw [outcome_implication] at h
    split at h
    case h_2 y e m q hy =>
      have hq : q.size + 1 < s.size := remainder_of_outcome hy
      split at h
      next => cases h
      next z e' r' hz =>
        cases h
        have hfirst := ihs.disjunction (Nat.le_refl _) hy
        exact hfirst.join (ihs e q z d' r (by omega) hz) rfl fun _ _ _ => .implies
    case h_4 y hy =>
      cases h
      exact (ihs.disjunction (Nat.le_refl _) hy).lift fun _ _ => .disjunction
    all_goals cases h

/-! Every derivation over the atoms that the names are resolved to is found, whatever comes after it
in the stream, as long as that does not go on with the phrase. -/

/-- The parser of the layer reads `x` off `s`, resolving the names that lead from `d` to `d'`, and
leaves `r`. In the two layers whose phrases are chains, it comes to going on with the chain
after `x`. -/
def Finds (d : Glossary) (s : TokenStream) (x : Formula) (d' : Glossary) (r : TokenStream) :
    Layer → Prop
  | .primary => outcome (primary d s) = .ok (x, d', r)
  | .negation => outcome (negation d s) = .ok (x, d', r)
  | .conjunction => outcome (conjunction d s) = outcome (conjuncts x d' r)
  | .disjunction => r.Past [.and] → outcome (disjunction d s) = outcome (disjuncts x d' r)
  | .implication =>
      r.Past [.and, .or, .implies] → outcome (implication d s) = .ok (x, d', r)

theorem Derives.finds {layer : Layer} (h : Derives own layer ts x) (hs : s.Reads ts r)
    (ho : (d.after ts).Within own) : Finds d s x (d.after ts) r layer := by
  induction h generalizing s r d with
  | disjunction h ih =>
    intro hr
    have hd := ih hs ho (hr.mono (by simp))
    rw [outcome_disjuncts_past (hr.mono (by simp))] at hd
    exact outcome_implication_past hd (hr.mono (by simp))
  | implies hx hy ihx ihy =>
    intro hr
    rw [Glossary.after_join rfl] at ho ⊢
    obtain ⟨q, hq, hi⟩ := hs.exists_middle
    cases hi with
    | cons hi =>
      rw [outcome_implication, ihx hq ho.of_after (by simp [Past]),
        outcome_disjuncts_past (by simp [Past])]
      simp only [ihy hi ho hr]
  | conjunction h ih =>
    intro hr
    rw [outcome_disjunction, ih hs ho, outcome_conjuncts_past hr]
  | or hx hy ihx ihy =>
    intro hr
    rw [Glossary.after_join rfl] at ho ⊢
    obtain ⟨q, hq, hi⟩ := hs.exists_middle
    cases hi with
    | cons hi =>
      rw [ihx hq ho.of_after (by simp [Past]), outcome_disjuncts_or, ihy hi ho,
        outcome_conjuncts_past hr]
  | negation h ih => rw [Finds, outcome_conjunction, ih hs ho]
  | and hx hy ihx ihy =>
    rw [Glossary.after_join rfl] at ho ⊢
    obtain ⟨q, hq, ha⟩ := hs.exists_middle
    cases ha with
    | cons ha => rw [Finds, ihx hq ho.of_after, outcome_conjuncts_and, ihy ha ho]
  | primary h ih =>
    have hnot : ∀ n q, s ≠ .token .not n q := by
      cases h <;> cases hs <;> simp
    exact (outcome_negation_primary hnot).trans (ih hs ho)
  | not h ih =>
    rw [Glossary.after_cons, Glossary.after_of_name?_eq_none rfl] at ho ⊢
    cases hs with
    | cons hs => rw [Finds, outcome_negation_not, ih hs ho]
  | atom name =>
    cases hs with
    | cons hs =>
      cases hs
      have ho : (d.resolve name).2.Within own := ho
      rw [Finds, outcome_primary_atom, ho.own_eq]
      rfl
  | truth b =>
    cases hs with
    | cons hs =>
      cases hs
      rw [Finds, primary.eq_def]
      rfl
  | parentheses h ih =>
    rw [Glossary.after_parentheses] at ho ⊢
    cases hs with
    | cons hs =>
      obtain ⟨q, hq, hc⟩ := hs.exists_middle
      cases hc with
      | cons hc =>
        cases hc
        rw [Finds, outcome_primary_opening, ih hq ho (by simp [Past])]

/-- A stream is read as a formula exactly if it ends well and its tokens derive the formula over
the atoms that their names are resolved to. -/
theorem whole_eq_ok_iff {reading : Nat} : whole (.empty reading) s = .ok (x, d) ↔
    ∃ ts, s.Reads ts .finish ∧ d = .ofNames reading (Token.names ts) ∧
      Derives (.numbered reading (Token.names ts)) .implication ts x := by
  have hw : whole (.empty reading) s = .ok (x, d) ↔
      outcome (implication (.empty reading) s) = .ok (x, d, .finish) := by
    unfold whole
    rcases implication (.empty reading) s with e | ⟨y, d', ⟨_ | ⟨c, n⟩ | ⟨t, n, r⟩, hr⟩⟩ <;>
      simp [outcome, Except.map]
  rw [hw]
  constructor
  · intro h
    obtain ⟨ts, hs, rfl, hx⟩ := sound (s.size + 1) _ s x d .finish (Nat.lt_succ_self _) h
    rw [Glossary.after_empty] at hx ⊢
    exact ⟨ts, hs, rfl, hx _ (Glossary.within_ofNames _ _)⟩
  · rintro ⟨ts, hs, rfl, hx⟩
    have ho := Glossary.within_ofNames reading (Token.names ts)
    rw [← Glossary.after_empty] at ho ⊢
    exact hx.finds hs ho trivial

end Formula.Parser

end LogicTutor
