import ModelLayout.Collection
import ModelLayout.Proofs.StableSort

/-!
# The order of paths

Paths are put in the order of their components, and of several spellings of one path the first is
kept.  Since the sort is stable, that is the one that was listed first; so what is kept of one path
does not depend on the others.

## Main definitions

* `Path.Lt` — one path comes before another.
* `spelledOnce` — paths in order, each in one spelling.

## Main results

* `Path.componentsLe_trans`, `Path.componentsLe_total`, `Path.componentsLe_antisymm` — paths are in
  a total order.
* `pairwise_spelledOnce`, `mem_spelledOnce` — what is kept, and in what order.
* `filter_spelledOnce` — leaving out paths before or after makes no difference.
-/

namespace ModelLayout

/-! ### Components -/

namespace Component

theorem le_total (a b : Component) : a.le b = true ∨ b.le a = true := by
  cases a <;> cases b <;> simp [le, rank]
  exact String.le_total _ _

theorem le_antisymm {a b : Component} (hab : a.le b = true) (hba : b.le a = true) : a = b := by
  cases a <;> cases b <;> simp_all [le, rank]
  exact String.le_antisymm hab hba

theorem le_trans {a b c : Component} (hab : a.le b = true) (hbc : b.le c = true) :
    a.le c = true := by
  cases a <;> cases b <;> cases c <;> simp_all [le, rank]
  exact String.le_trans hab hbc

end Component

namespace Path

/-! ### Lists of components -/

theorem componentsLe_refl (as : List Component) : componentsLe as as = true := by
  induction as with
  | nil => rfl
  | cons a as ih => rw [componentsLe, if_pos rfl, ih]

theorem componentsLe_total (as : List Component) :
    ∀ bs, componentsLe as bs = true ∨ componentsLe bs as = true := by
  induction as with
  | nil => exact fun bs => Or.inl rfl
  | cons a as ih =>
    intro bs
    cases bs with
    | nil => exact Or.inr rfl
    | cons b bs =>
      by_cases hab : a = b
      · subst hab
        simpa [componentsLe] using ih bs
      · simpa [componentsLe, hab, Ne.symm hab] using Component.le_total a b

theorem componentsLe_antisymm {as : List Component} : ∀ {bs}, componentsLe as bs = true →
    componentsLe bs as = true → as = bs := by
  induction as with
  | nil =>
    intro bs _ hba
    cases bs with
    | nil => rfl
    | cons b bs => cases hba
  | cons a as ih =>
    intro bs hab hba
    cases bs with
    | nil => cases hab
    | cons b bs =>
      by_cases heq : a = b
      · subst heq
        rw [componentsLe, if_pos rfl] at hab hba
        rw [ih hab hba]
      · rw [componentsLe, if_neg heq] at hab
        rw [componentsLe, if_neg (Ne.symm heq)] at hba
        exact absurd (Component.le_antisymm hab hba) heq

theorem componentsLe_trans {as : List Component} : ∀ {bs cs}, componentsLe as bs = true →
    componentsLe bs cs = true → componentsLe as cs = true := by
  induction as with
  | nil => exact fun _ _ => rfl
  | cons a as ih =>
    intro bs cs hab hbc
    cases bs with
    | nil => cases hab
    | cons b bs =>
      cases cs with
      | nil => cases hbc
      | cons c cs =>
        rw [componentsLe] at hab hbc ⊢
        by_cases hb : a = b
        · subst hb
          rw [if_pos rfl] at hab
          by_cases hc : a = c
          · rw [if_pos hc] at hbc ⊢
            exact ih hab hbc
          · rwa [if_neg hc] at hbc ⊢
        · rw [if_neg hb] at hab
          by_cases hc : b = c
          · subst hc
            rwa [if_neg hb]
          · rw [if_neg hc] at hbc
            -- the first components differ, or else they would enclose one that is equal to both
            have hac : a ≠ c := by
              rintro rfl
              exact hb (Component.le_antisymm hab hbc)
            rw [if_neg hac]
            exact Component.le_trans hab hbc

/-! ### Paths -/

theorem same_iff {p q : String} : same p q = true ↔ components p = components q := by
  rw [same, beq_iff_eq]

theorem same_symm {p q : String} (h : same p q = true) : same q p = true :=
  same_iff.2 (same_iff.1 h).symm

/-- Two spellings of one path have the same spellings. -/
theorem same_congr {p q : String} (h : same p q = true) : same p = same q := by
  funext r
  rw [same, same, same_iff.1 h]

theorem le_trans (p q r : String) (hpq : le p q = true) (hqr : le q r = true) : le p r = true :=
  componentsLe_trans hpq hqr

theorem le_of_same {p q : String} (h : same p q = true) : le p q = true := by
  rw [le, same_iff.1 h]
  exact componentsLe_refl _

theorem same_of_le_of_le {p q : String} (hpq : le p q = true) (hqp : le q p = true) :
    same p q = true :=
  same_iff.2 (componentsLe_antisymm hpq hqp)

theorem le_or_le (p q : String) : (le p q || le q p) = true := by
  rw [Bool.or_eq_true]
  exact componentsLe_total _ _

/-- One path comes before another, and is not another spelling of it. -/
def Lt (p q : String) : Prop :=
  le p q = true ∧ ¬ same p q = true

instance (p q : String) : Decidable (Lt p q) :=
  inferInstanceAs (Decidable (_ ∧ _))

theorem Lt.ne {p q : String} (h : Lt p q) : p ≠ q := by
  rintro rfl
  exact h.2 (same_iff.2 rfl)

end Path

/-! ### Each path in one spelling -/

/-- Paths in order, each in the spelling that was listed first. -/
def spelledOnce (files : List String) : List String :=
  keepFirstSpelling (files.mergeSort Path.le)

/-- In a list in order only the next path can be another spelling of a given one. -/
theorem keepFirstSpelling_cons {p : String} {ps : List String} (hle : ∀ q ∈ ps, Path.le p q = true)
    (hmem : ∀ q ∈ keepFirstSpelling ps, q ∈ ps)
    (hlt : (keepFirstSpelling ps).Pairwise Path.Lt) :
    keepFirstSpelling (p :: ps) = p :: (keepFirstSpelling ps).filter (!Path.same p ·) := by
  rw [keepFirstSpelling]
  cases hkept : keepFirstSpelling ps with
  | nil => rfl
  | cons q qs =>
    rw [hkept] at hmem hlt
    obtain ⟨hq, -⟩ := List.pairwise_cons.1 hlt
    -- the paths after `q` come after `p` too
    have hrest : ∀ r ∈ qs, Path.same p r = false := by
      intro r hr
      refine Bool.eq_false_iff.2 fun hsame => (hq r hr).2 ?_
      have hpq : Path.le p q = true := hle q (hmem q List.mem_cons_self)
      have hrp : Path.le r p = true :=
        Path.le_of_same (Path.same_symm hsame)
      exact Path.same_of_le_of_le (hq r hr).1 (Path.le_trans r p q hrp hpq)
    have hfilter : qs.filter (!Path.same p ·) = qs :=
      List.filter_eq_self.2 fun r hr => by rw [hrest r hr]; rfl
    by_cases hsame : Path.same p q = true
    · simp [hsame, hfilter]
    · simp [hsame, hfilter]

theorem keepFirstSpelling_spec {ps : List String} (h : ps.Pairwise (Path.le · · = true)) :
    (keepFirstSpelling ps).Pairwise Path.Lt ∧
      ∀ p, p ∈ keepFirstSpelling ps ↔ ps.find? (Path.same p) = some p := by
  induction ps with
  | nil => exact ⟨.nil, by simp [keepFirstSpelling]⟩
  | cons q ps ih =>
    obtain ⟨hle, hps⟩ := List.pairwise_cons.1 h
    obtain ⟨hlt, hmem⟩ := ih hps
    have hsub : ∀ p ∈ keepFirstSpelling ps, p ∈ ps := fun p hp =>
      List.mem_of_find?_eq_some ((hmem p).1 hp)
    rw [keepFirstSpelling_cons hle hsub hlt]
    constructor
    · refine List.pairwise_cons.2 ⟨?_, hlt.filter _⟩
      intro p hp
      obtain ⟨hp, hsame⟩ := List.mem_filter.1 hp
      exact ⟨hle p (hsub p hp), by simpa using hsame⟩
    · intro p
      rw [List.mem_cons, List.mem_filter, hmem, List.find?_cons]
      by_cases hsame : Path.same p q = true
      · have hqp : Path.same q p = true := Path.same_symm hsame
        simp [hsame, hqp, eq_comm]
      · have hqp : ¬ Path.same q p = true := fun hqp => hsame (Path.same_symm hqp)
        have hne : p ≠ q := by
          rintro rfl
          exact hsame (Path.same_iff.2 rfl)
        simp [hsame, hqp, hne]

theorem pairwise_le_mergeSort (files : List String) :
    (files.mergeSort Path.le).Pairwise (Path.le · · = true) :=
  @List.pairwise_mergeSort String Path.le Path.le_trans Path.le_or_le files

/-- The sort is stable: it keeps the spellings of one path as they were listed. -/
theorem filter_same_mergeSort (files : List String) (p : String) :
    (files.mergeSort Path.le).filter (Path.same p) = files.filter (Path.same p) := by
  refine filter_mergeSort Path.le_trans Path.le_or_le (fun q r hq hr => ?_) files
  have hpq := Path.same_iff.1 hq
  have hpr := Path.same_iff.1 hr
  exact Path.le_of_same (Path.same_iff.2 (hpq.symm.trans hpr))

/-- Of each path that spelling is kept which was listed first. -/
theorem mem_spelledOnce {files : List String} {p : String} :
    p ∈ spelledOnce files ↔ files.find? (Path.same p) = some p := by
  rw [spelledOnce, (keepFirstSpelling_spec (pairwise_le_mergeSort files)).2, ← List.head?_filter,
    filter_same_mergeSort, List.head?_filter]

theorem pairwise_spelledOnce (files : List String) : (spelledOnce files).Pairwise Path.Lt :=
  (keepFirstSpelling_spec (pairwise_le_mergeSort files)).1

theorem mem_of_mem_spelledOnce {files : List String} {p : String} (h : p ∈ spelledOnce files) :
    p ∈ files :=
  List.mem_of_find?_eq_some (mem_spelledOnce.1 h)

/-- Lists in order without repetitions are equal if they have the same members. -/
theorem eq_of_pairwise_lt {ps qs : List String} (hps : ps.Pairwise Path.Lt)
    (hqs : qs.Pairwise Path.Lt) (h : ∀ p, p ∈ ps ↔ p ∈ qs) : ps = qs := by
  have hperm : ps.Perm qs :=
    (List.perm_ext_iff_of_nodup (hps.imp Path.Lt.ne) (hqs.imp Path.Lt.ne)).2 h
  refine hperm.eq_of_pairwise ?_ hps hqs
  intro p q _ _ hpq hqp
  exact absurd (Path.same_of_le_of_le hpq.1 hqp.1) hpq.2

/-- What is kept of a list is a list in order, in which each path has its first spelling. -/
theorem spelledOnce_eq {all files : List String} (horder : files.Pairwise Path.Lt)
    (hfirst : ∀ p ∈ files, all.find? (Path.same p) = some p)
    (hcover : ∀ p ∈ all, ∃ q ∈ files, Path.same q p = true) : spelledOnce all = files := by
  refine eq_of_pairwise_lt (pairwise_spelledOnce all) horder fun p => ⟨fun hp => ?_, fun hp => ?_⟩
  · obtain ⟨q, hq, hsame⟩ := hcover p (mem_of_mem_spelledOnce hp)
    have hqfirst := hfirst q hq
    rw [Path.same_congr hsame, mem_spelledOnce.1 hp] at hqfirst
    cases hqfirst
    exact hq
  · exact mem_spelledOnce.2 (hfirst p hp)

/-- Paths can be left out before or after, as long as all spellings of a path are. -/
theorem filter_spelledOnce {keep : String → Bool}
    (h : ∀ p q, Path.same p q = true → keep p = keep q) (files : List String) :
    (spelledOnce files).filter keep = spelledOnce (files.filter keep) := by
  refine eq_of_pairwise_lt ((pairwise_spelledOnce _).filter _) (pairwise_spelledOnce _) fun p => ?_
  rw [List.mem_filter, mem_spelledOnce, mem_spelledOnce, List.find?_filter]
  by_cases hkeep : keep p = true
  · have hpred : (fun q => decide (keep q = true ∧ Path.same p q = true)) = Path.same p := by
      funext q
      by_cases hsame : Path.same p q = true
      · simp [hsame, ← h p q hsame, hkeep]
      · simp [hsame]
    rw [hpred]
    exact and_iff_left hkeep
  · refine iff_of_false (fun hp => hkeep hp.2) fun hfind => hkeep ?_
    have htest := List.find?_some hfind
    exact (of_decide_eq_true htest).1

end ModelLayout
