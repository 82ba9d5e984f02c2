import Mathlib

/-!
# Tables

The rows of a relational table in the order of their insertion. Which rows the unique constraints keep
apart is a relation on rows, and a table carries the proof that no two of its rows are in it. A
statement that would break a constraint fails.

`sum` adds up a quantity over the rows. What a statement does to a sum is the quantity of the rows it
writes, less that of the rows it overwrites.
-/

namespace Relational

theorem bind_eq_ok {ε α β : Type} {x : Except ε α} {f : α → Except ε β} {b : β} :
    (x >>= f) = .ok b ↔ ∃ a, x = .ok a ∧ f a = .ok b := by
  cases x with
  | error err => simp [bind, Except.bind]
  | ok a => simp [bind, Except.bind]

/-- Rows no two of which are in conflict. -/
@[ext] structure Table (α : Type) (conflict : α → α → Bool) where
  rows : List α
  unique : rows.Pairwise fun a b => conflict a b = false

namespace Table

variable {α : Type} {conflict : α → α → Bool}

def empty : Table α conflict := ⟨[], List.Pairwise.nil⟩

variable (t : Table α conflict)

def find? (p : α → Bool) : Option α := t.rows.find? p

/-- `INSERT`, which fails on a row in conflict with one of the table. -/
def insert (a : α) : Option (Table α conflict) :=
  if h : ∀ b ∈ t.rows, conflict b a = false then
    some ⟨t.rows ++ [a], List.pairwise_append.mpr
      ⟨t.unique, List.pairwise_singleton _ _, by simpa using h⟩⟩
  else none

/-- `UPDATE` of columns that no constraint reads. -/
def update (f : α → α) (hf : ∀ a b, conflict (f a) (f b) = conflict a b) : Table α conflict :=
  ⟨t.rows.map f, List.pairwise_map.mpr (by simpa [hf] using t.unique)⟩

/-- `UPDATE` of any columns, which fails if it breaks a constraint. -/
def replace (f : α → α) : Option (Table α conflict) :=
  if h : (t.rows.map f).Pairwise fun a b => conflict a b = false then some ⟨t.rows.map f, h⟩ else none

/-- `INSERT ... ON CONFLICT ... DO UPDATE`: the rows that are the conflict's target are merged with the
new one. -/
def upsert (target : α → Bool) (merge : α → α) (a : α) : Option (Table α conflict) :=
  if t.rows.any target then t.replace fun b => if target b then merge b else b else t.insert a

/-- The row that no other comes before, the oldest of several. -/
def firstOf (before : α → α → Bool) : List α → Option α
  | [] => none
  | a :: rest =>
    match firstOf before rest with
    | none => some a
    | some b => if before b a then some b else some a

/-- `SELECT ... WHERE ... ORDER BY ... LIMIT 1`. -/
def first? (before : α → α → Bool) (p : α → Bool) : Option α := firstOf before (t.rows.filter p)

/-- The sum of a quantity over the rows. -/
def sum (f : α → Int) : Int := (t.rows.map f).sum

variable {t} {t' : Table α conflict} {a : α} {f g : α → α} {target : α → Bool}

theorem rows_insert (h : t.insert a = some t') : t'.rows = t.rows ++ [a] := by
  unfold insert at h
  split at h
  · cases h
    rfl
  · cases h

theorem insert_eq_some (h : ∀ b ∈ t.rows, conflict b a = false) : ∃ t', t.insert a = some t' :=
  ⟨_, dif_pos h⟩

theorem conflict_of_insert (h : t.insert a = some t') : ∀ b ∈ t.rows, conflict b a = false := by
  unfold insert at h
  split at h
  · assumption
  · cases h

theorem rows_replace (h : t.replace f = some t') : t'.rows = t.rows.map f := by
  unfold replace at h
  split at h
  · cases h
    rfl
  · cases h

theorem rows_upsert (h : t.upsert target f a = some t') :
    t'.rows = (if t.rows.any target then t.rows.map fun b => if target b then f b else b
      else t.rows ++ [a]) := by
  unfold upsert at h
  split at h
  · rw [rows_replace h, if_pos ‹_›]
  · rw [rows_insert h, if_neg ‹_›]

variable {b : α}

theorem eq_of_conflict (hsymm : ∀ a b, conflict a b = conflict b a) (ha : a ∈ t.rows) (hb : b ∈ t.rows)
    (h : conflict a b = true) : a = b := by
  have : Std.Symm fun a b => conflict a b = false := ⟨fun a b hab => (hsymm b a).trans hab⟩
  by_contra hne
  exact Bool.false_ne_true ((t.unique.forall ha hb hne).symm.trans h)

variable {before : α → α → Bool} {rows : List α}

theorem mem_of_firstOf (h : firstOf before rows = some a) : a ∈ rows := by
  induction rows generalizing a with
  | nil => cases h
  | cons b rest ih =>
    unfold firstOf at h
    cases hrest : firstOf before rest with
    | none =>
      rw [hrest] at h
      cases h
      exact List.mem_cons_self
    | some c =>
      simp only [hrest] at h
      split_ifs at h
      · cases h
        exact List.mem_cons_of_mem _ (ih hrest)
      · cases h
        exact List.mem_cons_self

theorem exists_first? (before : α → α → Bool) {p : α → Bool} (ha : a ∈ t.rows) (hp : p a = true) :
    ∃ b, t.first? before p = some b := by
  have hmem : a ∈ t.rows.filter p := List.mem_filter.mpr ⟨ha, hp⟩
  unfold first?
  cases hrows : t.rows.filter p with
  | nil =>
    rw [hrows] at hmem
    cases hmem
  | cons b rest =>
    unfold firstOf
    split
    · exact ⟨b, rfl⟩
    · split_ifs <;> exact ⟨_, rfl⟩

theorem mem_of_first? {p : α → Bool} (h : t.first? before p = some a) : a ∈ t.rows ∧ p a = true :=
  List.mem_filter.mp (mem_of_firstOf h)

theorem before_firstOf (hasymm : ∀ a b, before a b = true → before b a = false)
    (htrans : ∀ a b c, before a b = false → before b c = false → before a c = false)
    (h : firstOf before rows = some a) : ∀ b ∈ rows, before b a = false := by
  have hirrefl : ∀ b, before b b = false := by
    intro b
    by_contra hb
    exact hb (hasymm b b (by simpa using hb))
  induction rows generalizing a with
  | nil => cases h
  | cons c rest ih =>
    unfold firstOf at h
    cases hrest : firstOf before rest with
    | none =>
      cases rest with
      | nil =>
        simp only [hrest] at h
        cases h
        simpa using hirrefl c
      | cons d rest =>
        unfold firstOf at hrest
        split at hrest
        · cases hrest
        · split_ifs at hrest
    | some d =>
      simp only [hrest] at h
      split_ifs at h with hbefore
      · cases h
        exact List.forall_mem_cons.mpr ⟨hasymm _ _ hbefore, ih hrest⟩
      · cases h
        have hlast : before d c = false := by simpa using hbefore
        exact List.forall_mem_cons.mpr ⟨hirrefl c, fun b hb => htrans b d c (ih hrest b hb) hlast⟩

theorem filter_map_of_fixed {p : α → Bool} (hp : ∀ a ∈ rows, p (f a) = p a) (hsame : ∀ a ∈ rows, p a = true → f a = a) :
    (rows.map f).filter p = rows.filter p := by
  have hfilter : rows.filter (p ∘ f) = rows.filter p := List.filter_congr hp
  rw [List.filter_map, hfilter]
  apply (List.map_congr_left _).trans (List.map_id _)
  intro b hb
  obtain ⟨hmem, hpb⟩ := List.mem_filter.mp hb
  exact hsame b hmem hpb

theorem find?_eq_some {p : α → Bool} (hsymm : ∀ a b, conflict a b = conflict b a)
    (hp : ∀ a b, p a = true → p b = true → conflict a b = true) (ha : a ∈ t.rows) (hpa : p a = true) :
    t.find? p = some a := by
  cases hfind : t.find? p with
  | none => exact absurd hpa (List.find?_eq_none.mp hfind a ha)
  | some b =>
    have hb : b ∈ t.rows := List.mem_of_find?_eq_some hfind
    have hpb : p b = true := List.find?_some hfind
    rw [eq_of_conflict hsymm hb ha (hp b a hpb hpa)]

theorem mem_insert (h : t.insert a = some t') : b ∈ t'.rows ↔ b ∈ t.rows ∨ b = a := by
  rw [rows_insert h, List.mem_append, List.mem_singleton]

theorem mem_upsert (h : t.upsert target f a = some t') (hb : b ∈ t'.rows) :
    b = a ∨ b ∈ t.rows ∧ target b = false ∨ ∃ c ∈ t.rows, target c = true ∧ b = f c := by
  rw [rows_upsert h] at hb
  split_ifs at hb
  · obtain ⟨c, hc, rfl⟩ := List.mem_map.mp hb
    cases hcase : target c with
    | true => exact .inr (.inr ⟨c, hc, hcase, by simp⟩)
    | false => exact .inr (.inl (by simp [hc, hcase]))
  · rename_i hnone
    obtain hold | rfl := (List.mem_append.trans (or_congr_right List.mem_singleton)).mp hb
    · refine .inr (.inl ⟨hold, ?_⟩)
      by_contra htarget
      exact hnone (List.any_eq_true.mpr ⟨b, hold, by simpa using htarget⟩)
    · exact .inl rfl

theorem mem_upsert_of_not_target (h : t.upsert target f a = some t') (hb : b ∈ t.rows) (htarget : target b = false) :
    b ∈ t'.rows := by
  rw [rows_upsert h]
  split_ifs
  · exact List.mem_map.mpr ⟨b, hb, by simp [htarget]⟩
  · exact List.mem_append_left _ hb

theorem find?_upsert (h : t.upsert target f a = some t') {p : α → Bool} (hp : p a = false)
    (htarget : ∀ b, target b = true → p b = false ∧ p (f b) = false) : t'.find? p = t.find? p := by
  rw [find?, find?, rows_upsert h]
  split_ifs
  · have hcomp : p ∘ (fun b => if target b then f b else b) = p := by
      funext b
      cases hb : target b with
      | false => simp [hb]
      | true => simp [hb, htarget b hb]
    rw [List.find?_map, hcomp]
    cases hfind : t.rows.find? p with
    | none => rfl
    | some b =>
      have hb : target b = false := by
        by_contra hb
        have hpb := (htarget b (by simpa using hb)).1
        rw [List.find?_some hfind] at hpb
        cases hpb
      simp [hb]
  · rw [List.find?_append]
    simp [hp]
theorem exists_mem_upsert (h : t.upsert target f a = some t') :
    ∃ b ∈ t'.rows, b = a ∨ ∃ c ∈ t.rows, target c = true ∧ b = f c := by
  rw [rows_upsert h]
  split_ifs with hany
  · obtain ⟨c, hc, htarget⟩ := List.any_eq_true.mp hany
    exact ⟨f c, List.mem_map.mpr ⟨c, hc, by simp [htarget]⟩, .inr ⟨c, hc, htarget, rfl⟩⟩
  · exact ⟨a, List.mem_append_right _ List.mem_cons_self, .inl rfl⟩

/-- An upsert on a key succeeds when the new row, and a row merged with it, is apart from all others. -/
theorem upsert_eq_some (hsymm : ∀ a b, conflict a b = conflict b a)
    (hkey : ∀ b c, target b = true → target c = true → conflict b c = true)
    (hmerge : ∀ b c, target b = true → conflict (f b) c = conflict a c)
    (hnew : ∀ b ∈ t.rows, target b = false → conflict a b = false) : ∃ t', t.upsert target f a = some t' := by
  unfold upsert
  split_ifs with hany
  · refine ⟨_, dif_pos (List.pairwise_map.mpr (t.unique.imp_of_mem ?_))⟩
    intro b c hb hc hapart
    cases hb' : target b with
    | false =>
      cases hc' : target c with
      | false => simpa using hapart
      | true =>
        have hmerged : conflict b (f c) = conflict a b := (hsymm b (f c)).trans (hmerge c b hc')
        simpa [hmerged] using hnew b hb hb'
    | true =>
      cases hc' : target c with
      | false => simpa [hmerge b c hb'] using hnew c hc hc'
      | true => exact absurd (hkey b c hb' hc') (by simp [hapart])
  · apply insert_eq_some
    intro b hb
    rw [hsymm]
    apply hnew b hb
    by_contra htarget
    exact hany (List.any_eq_true.mpr ⟨b, hb, by simpa using htarget⟩)

theorem apart_of_upsert (hsymm : ∀ a b, conflict a b = conflict b a)
    (hmerge : ∀ b c, target b = true → conflict (f b) c = conflict a c) (hnew : target a = true)
    (hmerged : ∀ b, target b = true → target (f b) = true) (h : t.upsert target f a = some t') (hb : b ∈ t.rows)
    (hother : target b = false) : conflict a b = false := by
  obtain ⟨c, hc, hcase⟩ := exists_mem_upsert h
  have hkey : target c = true ∧ conflict c b = conflict a b := by
    rcases hcase with rfl | ⟨d, _, hd, rfl⟩
    · exact ⟨hnew, rfl⟩
    · exact ⟨hmerged d hd, hmerge d b hd⟩
  by_contra hconflict
  have hsame := eq_of_conflict hsymm hc (mem_upsert_of_not_target h hb hother)
    (hkey.2.trans (Bool.eq_true_of_not_eq_false hconflict))
  rw [← hsame, hkey.1] at hother
  cases hother

/-! ### Sums -/

variable {q : α → Int} {p : α → Bool}

theorem sum_ite_eq_find? (hone : rows.Pairwise fun a b => ¬ (p a = true ∧ p b = true)) :
    (rows.map fun b => if p b then q b else 0).sum = ((rows.find? p).map q).getD 0 := by
  induction rows with
  | nil => rfl
  | cons b rest ih =>
    obtain ⟨hb, hrest⟩ := List.pairwise_cons.mp hone
    rw [List.map_cons, List.sum_cons, ih hrest, List.find?_cons]
    by_cases hp : p b = true
    · have hnone : rest.find? p = none := by
        refine List.find?_eq_none.mpr ?_
        intro c hc hpc
        exact hb c hc ⟨hp, hpc⟩
      simp [hp, hnone]
    · simp [hp]

theorem pairwise_key (hkey : ∀ a b, p a = true → p b = true → conflict a b = true) :
    t.rows.Pairwise fun a b => ¬ (p a = true ∧ p b = true) := by
  apply t.unique.imp
  intro a b hconflict hboth
  exact Bool.false_ne_true (hconflict.symm.trans (hkey a b hboth.1 hboth.2))

/-- An upsert exchanges the quantity of the row it overwrites for that of the row it writes. -/
theorem sum_upsert (hkey : ∀ a b, target a = true → target b = true → conflict a b = true)
    (h : t.upsert target f a = some t') :
    t'.sum q = t.sum q + ((t.find? target).map fun b => q (f b) - q b).getD (q a) := by
  unfold sum find?
  rw [rows_upsert h]
  split_ifs with hany
  · obtain ⟨b, hb⟩ := Option.isSome_iff_exists.mp (List.find?_isSome.mpr (List.any_eq_true.mp hany))
    have hsplit : ∀ c, q (if target c = true then f c else c) =
        q c + if target c = true then q (f c) - q c else 0 := by
      intro c
      split_ifs <;> omega
    rw [List.map_map, Function.comp_def, funext hsplit, List.sum_map_add,
      sum_ite_eq_find? (pairwise_key hkey), hb]
    rfl
  · have hnone : t.rows.find? target = none := by
      apply List.find?_eq_none.mpr
      intro b hb htarget
      exact hany (List.any_eq_true.mpr ⟨b, hb, htarget⟩)
    simp [hnone]

theorem le_sum (h : ∀ b ∈ t.rows, 0 ≤ q b) (ha : a ∈ t.rows) : q a ≤ t.sum q := by
  apply List.single_le_sum _ _ (List.mem_map_of_mem ha)
  intro x hx
  obtain ⟨b, hb, rfl⟩ := List.mem_map.mp hx
  exact h b hb

end Table

end Relational
