import CoverageGate.Pattern
import Mathlib.Data.List.Nodup

/-!
# How patterns match

The ways of a pattern are all its matches in order of preference, so a statement about the
preferred one has to look through choices that were given up.  This file proves what is needed to
read a chain of markers with gaps between them forward, without going back.

* `mem_ways_iff`: the ways at a place are exactly the texts of the pattern that stand there
  (`Matches`), whatever their order.
* `match?_gap_seq`: a gap in front of a pattern finds the leftmost match of that pattern.
* `find?_seq_of_rigid`: where a pattern has one text at most at each place (`Rigid`), and what
  follows it never gains from starting later (`FailsForward`), its first occurrence decides.
* `Spells.rigid`: patterns that spell a list of texts of one length are rigid.
-/

namespace CoverageGate

namespace Pattern

variable {p q r : Pattern} {s t : List Char} {w : Way}

/-! ## 1. Joining ways -/

@[simp] theorem Way.append_nil (s : List Char) : Way.append ⟨[], none, s⟩ = id := by
  funext w
  simp [Way.append]

theorem Way.append_cons (c : Char) (u : Way) : (u.cons c).append = Way.cons c ∘ u.append := rfl

theorem Way.append_assoc (u v w : Way) : (u.append v).append w = u.append (v.append w) := by
  simp [Way.append, Option.or_assoc]

/-- Patterns one after the other can be grouped in any way. -/
theorem ways_seq_assoc (p q r : Pattern) (s : List Char) :
    ways (seq (seq p q) r) s = ways (seq p (seq q r)) s := by
  have happend (u v : Way) : (u.append v).append = u.append ∘ v.append :=
    funext fun w => Way.append_assoc u v w
  have hrest (u v : Way) : (u.append v).rest = v.rest := rfl
  simp [ways, List.flatMap_assoc, List.flatMap_map, List.map_flatMap, happend, hrest]

/-- A chain can be cut in two at any link. -/
theorem ways_chain_append (ps qs : List Pattern) (s : List Char) :
    ways (chain (ps ++ qs)) s = ways (seq (chain ps) (chain qs)) s := by
  induction ps generalizing s with
  | nil => simp [chain, ways]
  | cons p ps ih =>
    calc ways (chain (p :: ps ++ qs)) s
        = ways (seq p (seq (chain ps) (chain qs))) s := by simp [chain, ways, ih]
      _ = ways (seq (chain (p :: ps)) (chain qs)) s := (ways_seq_assoc p _ _ s).symm

/-- The leftmost match is read off the ways at each place. -/
theorem find?_congr (h : ∀ t, ways p t = ways q t) (s : List Char) : find? p s = find? q s := by
  induction s with
  | nil => simp [find?, match?, h]
  | cons c rest ih => simp [find?, match?, h, ih]

/-! ## 2. The texts of a pattern -/

/-- `Matches p s kept`: `s` is a text of the pattern `p`, and `kept` is what its last group
holds. -/
inductive Matches : Pattern → List Char → Option (List Char) → Prop
  | empty : Matches .empty [] none
  | one {accepts : Char → Bool} {c : Char} (h : accepts c = true) : Matches (.one accepts) [c] none
  | run {accepts : Char → Bool} {s : List Char} (h : ∀ c ∈ s, accepts c = true) :
      Matches (.run accepts) s none
  | gap (s : List Char) : Matches .gap s none
  | seq {p q : Pattern} {s t : List Char} {k l : Option (List Char)} (first : Matches p s k)
      (second : Matches q t l) : Matches (.seq p q) (s ++ t) (l.or k)
  | left {p q : Pattern} {s : List Char} {k : Option (List Char)} (h : Matches p s k) :
      Matches (.either p q) s k
  | right {p q : Pattern} {s : List Char} {k : Option (List Char)} (h : Matches q s k) :
      Matches (.either p q) s k
  | group {p : Pattern} {s : List Char} {k : Option (List Char)} (h : Matches p s k) :
      Matches (.group p) s (some s)

theorem mem_runWays {accepts : Char → Bool} :
    w ∈ runWays accepts s ↔
      w.matched ++ w.rest = s ∧ w.kept = none ∧ ∀ c ∈ w.matched, accepts c = true := by
  refine ⟨fun h => ⟨append_of_mem_runWays h, ?_⟩, ?_⟩
  · induction s generalizing w with
    | nil => simp_all [runWays]
    | cons c rest ih =>
      simp only [runWays] at h
      split at h
      · next hc =>
        simp only [List.mem_append, List.mem_map, List.mem_singleton] at h
        rcases h with ⟨v, hv, rfl⟩ | rfl
        · obtain ⟨hkept, hall⟩ := ih hv
          exact ⟨hkept, List.forall_mem_cons.mpr ⟨hc, hall⟩⟩
        · simp
      · simp_all
  · obtain ⟨matched, kept, rest⟩ := w
    rintro ⟨rfl, rfl, hall⟩
    dsimp only at hall ⊢
    induction matched with
    | nil =>
      cases rest with
      | nil => simp [runWays]
      | cons c rest =>
        simp only [runWays, List.nil_append]
        split <;> simp
    | cons c matched ih =>
      obtain ⟨hc, hall⟩ := List.forall_mem_cons.mp hall
      simp only [List.cons_append, runWays, hc, if_true, List.mem_append, List.mem_map]
      exact Or.inl ⟨_, ih hall, rfl⟩

/-- A gap has the ways of a run of any characters, in the opposite order. -/
theorem gapWays_eq_reverse (s : List Char) : gapWays s = (runWays (fun _ => true) s).reverse := by
  induction s with
  | nil => rfl
  | cons c rest ih => simp [gapWays, runWays, ih]

theorem mem_gapWays : w ∈ gapWays s ↔ w.matched ++ w.rest = s ∧ w.kept = none := by
  simp [gapWays_eq_reverse, mem_runWays]

/-- **The ways at a place are the texts of the pattern that stand there.** -/
theorem mem_ways_iff :
    w ∈ ways p s ↔ w.matched ++ w.rest = s ∧ Matches p w.matched w.kept := by
  refine ⟨fun h => ⟨append_of_mem_ways h, ?_⟩, ?_⟩
  · induction p generalizing s w with
    | empty =>
      simp only [ways, List.mem_singleton] at h
      exact h ▸ .empty
    | one accepts =>
      cases s with
      | nil => simp [ways] at h
      | cons c rest =>
        simp only [ways] at h
        split at h
        · next hc =>
          rw [List.mem_singleton.mp h]
          exact .one hc
        · simp at h
    | run accepts =>
      obtain ⟨-, hkept, hall⟩ := mem_runWays.mp h
      exact hkept ▸ .run hall
    | gap =>
      obtain ⟨-, hkept⟩ := mem_gapWays.mp h
      exact hkept ▸ .gap _
    | seq first second ih₁ ih₂ =>
      simp only [ways, List.mem_flatMap, List.mem_map] at h
      obtain ⟨u, hu, v, hv, rfl⟩ := h
      exact .seq (ih₁ hu) (ih₂ hv)
    | either first second ih₁ ih₂ =>
      simp only [ways, List.mem_append] at h
      exact h.elim (fun h => .left (ih₁ h)) fun h => .right (ih₂ h)
    | group inner ih =>
      simp only [ways, List.mem_map] at h
      obtain ⟨v, hv, rfl⟩ := h
      exact .group (s := v.matched) (ih hv)
  · obtain ⟨matched, kept, rest⟩ := w
    rintro ⟨rfl, h⟩
    dsimp only at h ⊢
    induction h generalizing rest with
    | empty => simp [ways]
    | one h => simp [ways, h]
    | run h => exact mem_runWays.mpr ⟨rfl, rfl, h⟩
    | gap s => exact mem_gapWays.mpr ⟨rfl, rfl⟩
    | @seq p q s t k l _ _ ih₁ ih₂ =>
      simp only [ways, List.mem_flatMap, List.mem_map, List.append_assoc]
      exact ⟨⟨s, k, t ++ rest⟩, ih₁ _, ⟨t, l, rest⟩, ih₂ _, rfl⟩
    | left _ ih => exact List.mem_append_left _ (ih rest)
    | right _ ih => exact List.mem_append_right _ (ih rest)
    | group _ ih => exact List.mem_map.mpr ⟨_, ih rest, rfl⟩

/-! ## 3. Gaps -/

theorem ways_gap_seq_nil (q : Pattern) : ways (seq gap q) [] = ways q [] := by
  simp [ways, gapWays]

theorem ways_gap_seq_cons (q : Pattern) (c : Char) (rest : List Char) :
    ways (seq gap q) (c :: rest)
      = ways q (c :: rest) ++ (ways (seq gap q) rest).map (Way.cons c) := by
  have hrest (u : Way) : (u.cons c).rest = u.rest := rfl
  simp [ways, gapWays, List.flatMap_map, List.map_flatMap, hrest, Way.append_cons]

/-- **A gap in front of a pattern finds its leftmost match.**  The gap's ways are tried from the
shortest on, so the first that lets the pattern match ends where the pattern first matches. -/
theorem match?_gap_seq (q : Pattern) (s : List Char) :
    match? (seq gap q) s =
      (find? q s).map fun (before, w) => { w with matched := before ++ w.matched } := by
  induction s with
  | nil =>
    rw [match?, ways_gap_seq_nil, find?, match?]
    cases (ways q []).head? <;> rfl
  | cons c rest ih =>
    rw [match?] at ih
    rw [match?, ways_gap_seq_cons, List.head?_append, List.head?_map, ih, find?, match?]
    cases (ways q (c :: rest)).head? with
    | some w => rfl
    | none => cases find? q rest <;> rfl

theorem find?_eq_none_iff : find? p s = none ↔ ∀ t, t <:+ s → match? p t = none := by
  induction s with
  | nil => simp [find?]
  | cons c rest ih =>
    simp only [find?, List.suffix_cons_iff, forall_eq_or_imp]
    split
    · next w h => simp [h]
    · next h => simp [h, ih]

/-- Where such a pattern does not match, it matches at no later place either. -/
def FailsForward (p : Pattern) : Prop :=
  ∀ s t, t <:+ s → match? p s = none → match? p t = none

theorem failsForward_empty : FailsForward empty := by
  intro s t _ h
  simp [match?, ways] at h

/-- A gap can always begin earlier. -/
theorem failsForward_gap_seq (q : Pattern) : FailsForward (seq gap q) := by
  intro s t ht h
  rw [match?_gap_seq, Option.map_eq_none_iff, find?_eq_none_iff] at h ⊢
  exact fun u hu => h u (hu.trans ht)

/-! ## 4. Rigid patterns -/

/-- At each place such a pattern has one way to match at most, and all its texts have length `n`. -/
def Rigid (p : Pattern) (n : Nat) : Prop :=
  ∀ s, ways p s = (match? p s).toList ∧ ∀ w ∈ match? p s, w.rest = s.drop n

theorem Rigid.match?_seq {n : Nat} (hp : Rigid p n) (q : Pattern) (s : List Char) :
    match? (seq p q) s = (match? p s).bind fun w => (match? q w.rest).map w.append := by
  rw [match?, ways, (hp s).1]
  cases match? p s <;> simp [match?]

theorem drop_suffix_drop (n : Nat) (h : t <:+ s) : t.drop n <:+ s.drop n := by
  obtain ⟨u, rfl⟩ := h
  rw [List.drop_append]
  exact (List.drop_suffix_drop_left t (Nat.sub_le n u.length)).trans (List.suffix_append _ _)

/-- **The first occurrence decides.**  If what follows it there does not match, then it matches
behind no later occurrence, because the text behind a later one is a part of the text behind the
first. -/
theorem find?_seq_of_rigid {n : Nat} (hp : Rigid p n) (hq : FailsForward q) (s : List Char) :
    find? (seq p q) s =
      (find? p s).bind fun m => (match? q m.2.rest).map fun v => (m.1, m.2.append v) := by
  induction s with
  | nil =>
    rw [find?, find?, hp.match?_seq]
    cases match? p [] with
    | none => rfl
    | some w => simp [Function.comp_def]
  | cons c rest ih =>
    rw [find?, find?, hp.match?_seq]
    cases hw : match? p (c :: rest) with
    | none =>
      rw [ih]
      cases find? p rest with
      | none => rfl
      | some v => simp [Function.comp_def]
    | some w =>
      cases hv : match? q w.rest with
      | some v => simp [hv]
      | none =>
        have hlater : find? (seq p q) rest = none := by
          rw [find?_eq_none_iff]
          intro t ht
          rw [hp.match?_seq]
          cases hu : match? p t with
          | none => rfl
          | some u =>
            have hsuffix : u.rest <:+ w.rest := by
              rw [(hp t).2 u hu, (hp _).2 w hw]
              exact drop_suffix_drop n (ht.trans (List.suffix_cons c rest))
            simp [hq _ _ hsuffix hv]
        simp [hv, hlater]

/-! ## 5. Patterns that spell texts -/

/-- The pattern matches exactly these texts, in this order of preference, and keeps nothing. -/
def Spells (p : Pattern) (texts : List (List Char)) : Prop :=
  ∀ s, ways p s =
    (texts.filter (·.isPrefixOf s)).map fun text => ⟨text, none, s.drop text.length⟩

theorem spells_empty : Spells empty [[]] := by
  intro s
  simp [ways]

theorem spells_literal (text : List Char) : Spells (literal text) [text] := by
  intro s
  rw [ways_literal]
  by_cases h : text.isPrefixOf s = true <;> simp [h]

theorem spells_oneOf {chars : List Char} (h : chars.Nodup) :
    Spells (oneOf chars) (chars.map ([·])) := by
  intro s
  cases s with
  | nil => simp [oneOf, ways]
  | cons c rest =>
    have hfilter : chars.filter (· == c) = if c ∈ chars then [c] else [] := by
      rw [List.filter_beq]
      by_cases hc : c ∈ chars
      · simp [hc, List.count_eq_one_of_mem h hc]
      · simp [hc, List.count_eq_zero_of_not_mem hc]
    simp [oneOf, ways, List.filter_map, Function.comp_def, List.isPrefixOf, hfilter]
    split <;> rfl

theorem spells_either {us vs : List (List Char)} (hp : Spells p us) (hq : Spells q vs) :
    Spells (either p q) (us ++ vs) := by
  intro s
  simp [ways, hp s, hq s]

theorem isPrefixOf_append (u v s : List Char) :
    (u ++ v).isPrefixOf s = (u.isPrefixOf s && v.isPrefixOf (s.drop u.length)) := by
  induction u generalizing s with
  | nil => simp
  | cons c u ih =>
    cases s with
    | nil => rfl
    | cons d s => simp [List.isPrefixOf, ih, Bool.and_assoc]

theorem spells_seq {us vs : List (List Char)} (hp : Spells p us) (hq : Spells q vs) :
    Spells (seq p q) (us.flatMap fun u => vs.map (u ++ ·)) := by
  intro s
  rw [ways, hp s]
  clear hp
  induction us with
  | nil => rfl
  | cons u us ih =>
    by_cases h : u.isPrefixOf s = true
    · simp [h, ih, hq (s.drop u.length), List.filter_map, isPrefixOf_append, Function.comp_def,
        Way.append]
    · simp [h, ih, List.filter_map, isPrefixOf_append, Function.comp_def]

/-- Texts of one length exclude each other. -/
theorem Spells.rigid {texts : List (List Char)} {n : Nat} (h : Spells p texts)
    (hnodup : texts.Nodup) (hlength : ∀ text ∈ texts, text.length = n) : Rigid p n := by
  intro s
  rw [match?, h s]
  cases hf : texts.filter (·.isPrefixOf s) with
  | nil => simp
  | cons u others =>
    have hmem (v : List Char) (hv : v ∈ u :: others) : v.length = n ∧ v <+: s := by
      rw [← hf, List.mem_filter, List.isPrefixOf_iff_prefix] at hv
      exact ⟨hlength v hv.1, hv.2⟩
    have hothers : others = [] := by
      rw [List.eq_nil_iff_forall_not_mem]
      intro v hv
      obtain ⟨hvn, hvs⟩ := hmem v (List.mem_cons_of_mem u hv)
      obtain ⟨hun, hus⟩ := hmem u List.mem_cons_self
      have heq : v = u := (List.prefix_of_prefix_length_le hvs hus (by omega)).eq_of_length
        (by omega)
      have hnodup' : (u :: others).Nodup := hf ▸ hnodup.filter _
      exact (List.nodup_cons.mp hnodup').1 (heq ▸ hv)
    simp [hothers, (hmem u List.mem_cons_self).1]

end Pattern

end CoverageGate
