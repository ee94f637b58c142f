import CoverageGate.Proofs.Matching
import CoverageGate.Report.SummaryBlock
import Mathlib.Data.Nat.Find

/-!
# Markers in a text

A marker is a fixed text that is looked for, such as a tag.  This file says where the first of some
markers stands, and what it is to read a text forward from one marker to the next.

* `FirstOf`: a text cut at the first place where one of some markers stands.
* `Forward`: a text read through the first occurrence of each marker in turn;
  `exists_forward_iff_inOrder`: such a reading gets to its end exactly if the markers stand in the
  text in this order at all.
* `Free`, `firstOf_of_free`: what a piece of a text must be like for no marker to start in it, and
  that the first marker is then the one behind it.
* `Spells.find?_eq_some_iff`, `match?_through_eq_some_iff`: the two relations as matches of a
  pattern.
* `cutAfter_eq_some_iff`: the same for a cut.
-/

namespace CoverageGate

/-! ## 1. The first of some markers -/

/-- `s` is cut at the first place where one of the texts stands: it is `text`, between `before` and
`after`. -/
structure FirstOf (texts : List (List Char)) (s before text after : List Char) : Prop where
  mem : text ∈ texts
  eq : s = before ++ (text ++ after)
  least : ∀ b t a, t ∈ texts → s = b ++ (t ++ a) → before.length ≤ b.length

/-- A text that can be cut somewhere as wished has a first such place. -/
theorem exists_first_cut (wished : List Char → List Char → Prop) {s u v : List Char}
    (hs : s = u ++ v) (h : wished u v) :
    ∃ before after, s = before ++ after ∧ wished before after ∧
      ∀ b a, s = b ++ a → wished b a → before.length ≤ b.length := by
  classical
  have hexists : ∃ n u v, s = u ++ v ∧ wished u v ∧ u.length = n := ⟨_, u, v, hs, h, rfl⟩
  obtain ⟨before, after, heq, hwished, hlength⟩ := Nat.find_spec hexists
  refine ⟨before, after, heq, hwished, ?_⟩
  intro b a hb hwish
  rw [hlength]
  exact Nat.find_min' hexists ⟨b, a, hb, hwish, rfl⟩

/-- Where one of the texts stands, there is a first of them. -/
theorem exists_firstOf {texts : List (List Char)} {s b t a : List Char} (ht : t ∈ texts)
    (hs : s = b ++ (t ++ a)) : ∃ before text after, FirstOf texts s before text after := by
  obtain ⟨before, _, heq, ⟨text, after, hmem, rfl⟩, hleast⟩ :=
    exists_first_cut (fun _ v => ∃ t a, t ∈ texts ∧ v = t ++ a) hs ⟨t, a, ht, rfl⟩
  exact ⟨before, text, after, hmem, heq, fun b' t' a' ht' hs' =>
    hleast b' _ hs' ⟨t', a', ht', rfl⟩⟩

/-- What follows a later occurrence is a part of what follows the first one. -/
theorem FirstOf.suffix {texts : List (List Char)} {s before text after b t a : List Char}
    (h : FirstOf texts s before text after) (ht : t ∈ texts) (hlength : t.length = text.length)
    (hs : s = b ++ (t ++ a)) : a <:+ after := by
  have hleast := h.least b t a ht hs
  have hafter : after <:+ s := ⟨before ++ text, by rw [h.eq, List.append_assoc]⟩
  have ha : a <:+ s := ⟨b ++ t, by rw [hs, List.append_assoc]⟩
  refine List.suffix_of_suffix_length_le ha hafter ?_
  have h1 := congrArg List.length h.eq
  have h2 := congrArg List.length hs
  simp only [List.length_append] at h1 h2
  omega

/-! ## 2. Reading forward -/

/-- `Forward markers s text rest`: reading `s` through the first occurrence of each marker in turn,
each behind the one before, goes over `text` and leaves `rest`. -/
inductive Forward : List (List Char) → List Char → List Char → List Char → Prop
  | done (s : List Char) : Forward [] s [] s
  | through {marker s before after text rest : List Char} {markers : List (List Char)}
      (first : FirstOf [marker] s before marker after) (next : Forward markers after text rest) :
      Forward (marker :: markers) s (before ++ (marker ++ text)) rest

/-- The markers stand in the text in this order, none overlapping another. -/
inductive InOrder : List (List Char) → List Char → Prop
  | done (s : List Char) : InOrder [] s
  | behind {marker after : List Char} {markers : List (List Char)} (before : List Char)
      (next : InOrder markers after) : InOrder (marker :: markers) (before ++ (marker ++ after))

theorem InOrder.of_suffix {markers : List (List Char)} {s t : List Char} (h : InOrder markers s)
    (hs : s <:+ t) : InOrder markers t := by
  obtain ⟨u, rfl⟩ := hs
  cases h with
  | done => exact .done _
  | behind before next =>
    rw [← List.append_assoc]
    exact .behind (u ++ before) next

/-- **A forward reading gets to its end if any reading does.**  The first occurrence of a marker
leaves the most text to the markers that follow. -/
theorem exists_forward_iff_inOrder {markers : List (List Char)} {s : List Char} :
    (∃ text rest, Forward markers s text rest) ↔ InOrder markers s := by
  constructor
  · rintro ⟨text, rest, h⟩
    induction h with
    | done s => exact .done s
    | through first _ ih =>
      rw [first.eq]
      exact .behind _ ih
  · induction markers generalizing s with
    | nil => exact fun _ => ⟨[], s, .done s⟩
    | cons marker markers ih =>
      rintro (_ | ⟨before, next⟩)
      have hmarker : marker ∈ [marker] := List.mem_singleton.mpr rfl
      obtain ⟨b, t, a, h⟩ := exists_firstOf hmarker rfl
      obtain rfl : t = marker := List.mem_singleton.mp h.mem
      obtain ⟨text, rest, hnext⟩ := ih (next.of_suffix (h.suffix h.mem rfl rfl))
      exact ⟨_, _, .through h hnext⟩

/-! ## 3. Pieces in which no marker starts -/

/-- No occurrence of the marker starts in `u` where `v` follows, not even one that ends in `v`. -/
def Free (marker u v : List Char) : Prop :=
  ∀ a b, u = a ++ b → b ≠ [] → ¬ marker <+: b ++ v

section Free

variable {marker u v w : List Char}

theorem free_nil (marker v : List Char) : Free marker [] v := by
  intro a b h hb
  exact absurd (List.append_eq_nil_iff.mp h.symm).2 hb

theorem Free.tail {c : Char} (h : Free marker (c :: u) v) : Free marker u v := by
  intro a b hu hb
  exact h (c :: a) b (by rw [hu, List.cons_append]) hb

theorem Free.append (hu : Free marker u (v ++ w)) (hv : Free marker v w) :
    Free marker (u ++ v) w := by
  intro a b h hb
  rcases List.append_eq_append_iff.mp h with ⟨c, -, rfl⟩ | ⟨c, rfl, rfl⟩
  · exact hv c b rfl hb
  · rw [List.append_assoc]
    by_cases hc : c = []
    · rw [hc, List.nil_append] at hb ⊢
      exact hv [] v rfl hb
    · exact hu a c rfl hc

/-- A marker that stands nowhere in `u` can still start there and end in what follows, unless no
division of it allows that. -/
theorem free_of_not_infix (h : ¬ marker <:+: u)
    (hdivide : ∀ a b, marker = a ++ b → a ≠ [] → b ≠ [] → a <:+ u → ¬ b <+: v) :
    Free marker u v := by
  intro a b hu hb hprefix
  rcases Nat.le_total marker.length b.length with hle | hle
  · have hmarker : marker <+: b :=
      List.prefix_of_prefix_length_le hprefix (List.prefix_append b v) hle
    exact h (hmarker.isInfix.trans ⟨a, [], by simp [hu]⟩)
  · obtain ⟨c, rfl⟩ := List.prefix_of_prefix_length_le (List.prefix_append b v) hprefix hle
    have hc : c <+: v := List.prefix_append_right_inj b |>.mp hprefix
    by_cases hnil : c = []
    · subst hnil
      exact h ⟨a, [], by simp [hu]⟩
    · exact hdivide b c rfl hb hnil ⟨a, hu.symm⟩ hc

/-- A piece without the character that a marker starts with is free of it. -/
theorem free_of_not_mem {c : Char} (h : c ∉ u) (v : List Char) : Free (c :: marker) u v := by
  intro a b hu hb hprefix
  obtain ⟨d, b, rfl⟩ := List.exists_cons_of_ne_nil hb
  obtain rfl : c = d := (List.cons_prefix_cons.mp hprefix).1
  exact h (by simp [hu])

/-- A marker without a further `<` cannot end in what follows if that starts with `<`. -/
theorem free_of_opens (hv : v.head? = some '<') (hmarker : '<' ∉ marker.tail)
    (h : ¬ marker <:+: u) : Free marker u v := by
  obtain ⟨v, rfl⟩ := List.head?_eq_some_iff.mp hv
  refine free_of_not_infix h fun a b hab ha hb _ hprefix => ?_
  obtain ⟨c, a, rfl⟩ := List.exists_cons_of_ne_nil ha
  obtain ⟨d, b, rfl⟩ := List.exists_cons_of_ne_nil hb
  obtain rfl : d = '<' := (List.cons_prefix_cons.mp hprefix).1
  exact hmarker (by simp [hab])

/-- A marker without a `>` before its end cannot start in a piece that ends with `>` and go on
behind it. -/
theorem free_of_closes (hu : u.getLast? = some '>') (hmarker : '>' ∉ marker.dropLast)
    (h : ¬ marker <:+: u) (v : List Char) : Free marker u v := by
  obtain ⟨u, rfl⟩ := List.getLast?_eq_some_iff.mp hu
  refine free_of_not_infix h fun a b hab ha hb hsuffix _ => ?_
  rcases List.eq_nil_or_concat' a with rfl | ⟨a, c, rfl⟩
  · exact ha rfl
  · obtain rfl : c = '>' := by
      obtain ⟨x, hx⟩ := hsuffix
      rw [← List.append_assoc] at hx
      exact (List.append_singleton_inj.mp hx).2
    rw [hab, List.dropLast_append_of_ne_nil hb] at hmarker
    exact hmarker (by simp)

/-- A marker no end of which starts the text that follows. -/
theorem free_of_unbordered {text : List Char} (hlength : marker.length ≤ text.length)
    (hborder : ∀ k < marker.length, 0 < k → ¬ marker.drop k <+: text) (h : ¬ marker <:+: u)
    (v : List Char) : Free marker u (text ++ v) := by
  refine free_of_not_infix h fun a b hab ha hb _ hprefix => ?_
  have hb' : b <+: text := by
    have hle : b.length ≤ text.length := Nat.le_trans (by simp [hab]) hlength
    exact List.prefix_of_prefix_length_le hprefix (List.prefix_append text v) hle
  refine hborder a.length ?_ (List.length_pos_iff.mpr ha) (by simpa [hab] using hb')
  simpa [hab] using List.length_pos_iff.mpr hb

/-- Behind a piece that is free of some markers stands the first of them. -/
theorem firstOf_of_free {texts : List (List Char)} {before text after : List Char}
    (hmem : text ∈ texts) (h : ∀ t ∈ texts, Free t before (text ++ after)) :
    FirstOf texts (before ++ (text ++ after)) before text after := by
  refine ⟨hmem, rfl, ?_⟩
  intro b t a ht heq
  by_contra hlt
  rcases List.append_eq_append_iff.mp heq with ⟨c, rfl, -⟩ | ⟨c, hc, hrest⟩
  · simp at hlt
  · refine h t ht b c hc ?_ ⟨a, hrest⟩
    rintro rfl
    simp [hc] at hlt

end Free

/-! ## 4. Readings as matches -/

namespace Pattern

variable {p : Pattern} {s : List Char} {w : Way}

theorem find?_eq_some_nil_iff : find? p s = some ([], w) ↔ match? p s = some w := by
  cases s with
  | nil => simp [find?]
  | cons c rest =>
    rw [find?]
    cases match? p (c :: rest) <;> simp

theorem find?_eq_some_cons_iff {c : Char} {before : List Char} :
    find? p s = some (c :: before, w) ↔
      ∃ rest, s = c :: rest ∧ match? p s = none ∧ find? p rest = some (before, w) := by
  cases s with
  | nil => simp [find?]
  | cons d rest =>
    rw [find?]
    cases match? p (d :: rest) with
    | some v => simp
    | none =>
      constructor
      · intro h
        obtain ⟨⟨b, v⟩, hfind, heq⟩ := Option.map_eq_some_iff.mp h
        obtain ⟨⟨rfl, rfl⟩, rfl⟩ : (d = c ∧ b = before) ∧ v = w := by simpa using heq
        exact ⟨rest, rfl, rfl, hfind⟩
      · rintro ⟨_, heq, -, hfind⟩
        obtain ⟨rfl, rfl⟩ := List.cons.inj heq
        simp [hfind]

/-- The leftmost match is a match at a place before which there is none. -/
theorem find?_eq_some_iff {before : List Char} :
    find? p s = some (before, w) ↔
      (∃ t, s = before ++ t ∧ match? p t = some w) ∧
        ∀ b t, s = b ++ t → b.length < before.length → match? p t = none := by
  induction before generalizing s with
  | nil =>
    rw [find?_eq_some_nil_iff]
    constructor
    · exact fun h => ⟨⟨s, rfl, h⟩, fun _ _ _ hlt => absurd hlt (Nat.not_lt_zero _)⟩
    · rintro ⟨⟨t, rfl, h⟩, -⟩
      exact h
  | cons c before ih =>
    rw [find?_eq_some_cons_iff]
    constructor
    · rintro ⟨rest, rfl, hnone, h⟩
      obtain ⟨⟨t, rfl, ht⟩, hleast⟩ := ih.mp h
      refine ⟨⟨t, rfl, ht⟩, ?_⟩
      rintro (_ | ⟨d, b⟩) t' hs hlt
      · obtain rfl : c :: (before ++ t) = t' := hs
        exact hnone
      · exact hleast b t' (List.cons.inj hs).2 (Nat.lt_of_succ_lt_succ hlt)
    · rintro ⟨⟨t, rfl, ht⟩, hleast⟩
      refine ⟨before ++ t, rfl, hleast [] _ rfl (Nat.succ_pos _), ih.mpr ⟨⟨t, rfl, ht⟩, ?_⟩⟩
      intro b t' hs hlt
      exact hleast (c :: b) t' (by rw [List.cons_append, hs, List.cons_append])
        (Nat.succ_lt_succ hlt)

theorem Rigid.match?_eq_some_iff {n : Nat} (hp : Rigid p n) :
    match? p s = some w ↔ w ∈ ways p s := by
  rw [(hp s).1, Option.mem_toList]

theorem Spells.mem_ways_iff {texts : List (List Char)} (h : Spells p texts) :
    w ∈ ways p s ↔ w.matched ∈ texts ∧ w.kept = none ∧ w.matched ++ w.rest = s := by
  rw [h s, List.mem_map]
  constructor
  · rintro ⟨text, ht, rfl⟩
    rw [List.mem_filter] at ht
    exact ⟨ht.1, rfl, Report.drop_of_isPrefixOf ht.2⟩
  · obtain ⟨matched, kept, rest⟩ := w
    rintro ⟨ht, rfl, rfl⟩
    exact ⟨matched, by simpa using ht, by simp⟩

/-- **A pattern that spells texts finds the first of them.** -/
theorem Spells.find?_eq_some_iff {texts : List (List Char)} {n : Nat} (h : Spells p texts)
    (hp : Rigid p n) {before : List Char} :
    find? p s = some (before, w) ↔ FirstOf texts s before w.matched w.rest ∧ w.kept = none := by
  rw [Pattern.find?_eq_some_iff]
  simp only [hp.match?_eq_some_iff, h.mem_ways_iff]
  constructor
  · rintro ⟨⟨t, hs, hmem, hkept, rfl⟩, hnone⟩
    refine ⟨⟨hmem, hs, ?_⟩, hkept⟩
    intro b u a hu hb
    by_contra hlt
    have hway : (⟨u, none, a⟩ : Way) ∈ ways p (u ++ a) := h.mem_ways_iff.mpr ⟨hu, rfl, rfl⟩
    have := hp.match?_eq_some_iff.mpr hway
    rw [hnone b (u ++ a) hb (Nat.lt_of_not_le hlt)] at this
    exact absurd this (by simp)
  · rintro ⟨hfirst, hkept⟩
    refine ⟨⟨_, hfirst.eq, hfirst.mem, hkept, rfl⟩, ?_⟩
    intro b t hb hlt
    by_contra hne
    obtain ⟨v, hv⟩ := Option.ne_none_iff_exists'.mp hne
    obtain ⟨hmem, -, rfl⟩ := h.mem_ways_iff.mp (hp.match?_eq_some_iff.mp hv)
    exact absurd (hfirst.least b _ _ hmem hb) (Nat.not_le.mpr hlt)

theorem rigid_literal (text : List Char) : Rigid (literal text) text.length :=
  (spells_literal text).rigid (List.nodup_singleton text) fun _ h => by
    rw [List.mem_singleton.mp h]

/-- Each marker in turn, with a gap before it. -/
def through (markers : List (List Char)) : Pattern :=
  chain (markers.flatMap fun marker => [gap, literal marker])

theorem failsForward_through (markers : List (List Char)) : FailsForward (through markers) := by
  cases markers with
  | nil => exact failsForward_empty
  | cons marker markers => exact failsForward_gap_seq _

/-- **Gaps between markers read forward.**  The preferred way through the markers takes the first
occurrence of each behind the one before: no gap is ever lengthened to save a later marker. -/
theorem match?_through_eq_some_iff {markers : List (List Char)} :
    match? (through markers) s = some w ↔
      Forward markers s w.matched w.rest ∧ w.kept = none := by
  induction markers generalizing s w with
  | nil =>
    obtain ⟨matched, kept, rest⟩ := w
    constructor
    · intro h
      obtain ⟨rfl, rfl, rfl⟩ : [] = matched ∧ none = kept ∧ s = rest := by
        simpa [through, chain, match?, ways] using h
      exact ⟨.done s, rfl⟩
    · rintro ⟨h, hkept⟩
      obtain rfl : kept = none := hkept
      cases h
      rfl
  | cons marker markers ih =>
    have hfind := find?_seq_of_rigid (rigid_literal marker) (failsForward_through markers) s
    have hmatch : match? (through (marker :: markers)) s
        = (find? (seq (literal marker) (through markers)) s).map
            fun m => { m.2 with matched := m.1 ++ m.2.matched } := match?_gap_seq _ s
    rw [hmatch, hfind]
    simp only [Option.map_eq_some_iff, Option.bind_eq_some_iff, Prod.exists]
    constructor
    · rintro ⟨_, _, ⟨before, u, hu, v, hv, heq⟩, rfl⟩
      obtain ⟨rfl, rfl⟩ : before = _ ∧ u.append v = _ := by simpa using heq
      obtain ⟨hfirst, hukept⟩ := ((spells_literal marker).find?_eq_some_iff
        (rigid_literal marker)).mp hu
      obtain ⟨hnext, hvkept⟩ := ih.mp hv
      have hmarker : u.matched = marker := List.mem_singleton.mp hfirst.mem
      rw [hmarker] at hfirst
      refine ⟨?_, by simp [Way.append, hukept, hvkept]⟩
      simpa [Way.append, hmarker] using Forward.through hfirst hnext
    · obtain ⟨matched, kept, rest⟩ := w
      rintro ⟨h, hkept⟩
      obtain rfl : kept = none := hkept
      cases h with
      | @through _ _ before after text _ _ first next =>
        refine ⟨before, ⟨marker ++ text, none, rest⟩, ⟨before, ⟨marker, none, after⟩, ?_,
          ⟨text, none, rest⟩, ih.mpr ⟨next, rfl⟩, rfl⟩, rfl⟩
        exact ((spells_literal marker).find?_eq_some_iff (rigid_literal marker)).mpr ⟨first, rfl⟩

end Pattern

/-! ## 5. Cuts -/

namespace Report

open Pattern

theorem cutAfter_eq_find? (marker s : List Char) :
    cutAfter marker s
      = (find? (literal marker) s).map fun m => (m.1 ++ m.2.matched, m.2.rest) := by
  induction s with
  | nil =>
    cases marker <;> simp [cutAfter, find?, match?, ways_literal]
  | cons c rest ih =>
    rw [cutAfter, find?, match?, ways_literal]
    by_cases h : marker.isPrefixOf (c :: rest) = true
    · simp [h]
    · rw [ih]
      cases find? (literal marker) rest <;> simp [h]

/-- A cut ends right behind the first occurrence of its marker. -/
theorem cutAfter_eq_some_iff {marker s upTo after : List Char} :
    cutAfter marker s = some (upTo, after) ↔
      ∃ before, upTo = before ++ marker ∧ FirstOf [marker] s before marker after := by
  rw [cutAfter_eq_find?]
  simp only [Option.map_eq_some_iff, Prod.exists, Prod.mk.injEq,
    (spells_literal marker).find?_eq_some_iff (rigid_literal marker)]
  constructor
  · rintro ⟨before, w, ⟨hfirst, -⟩, rfl, rfl⟩
    have hmarker : w.matched = marker := List.mem_singleton.mp hfirst.mem
    rw [hmarker] at hfirst ⊢
    exact ⟨before, rfl, hfirst⟩
  · rintro ⟨before, rfl, hfirst⟩
    exact ⟨before, ⟨marker, none, after⟩, ⟨hfirst, rfl⟩, rfl, rfl⟩

end Report

end CoverageGate
