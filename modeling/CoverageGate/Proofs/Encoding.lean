import CoverageGate.Proofs.Lines
import Mathlib.Algebra.Group.Nat.Defs

/-!
# Text and its bytes

The bytes of a text are read back as that text, and no other bytes are.

* `decodeFrom_encode`: the bytes of a text are read as that text.
* `Opens`: the bytes held between two steps open a character, whatever comes next;
  `opens_of_first` and `Opens.of_next` say so of every step, `Opens.encode_of_next` of the last one.
* `decode?_eq_some_iff`: bytes are read as a text exactly if they are its bytes.
* `splitText_eq_iff`: all bytes are in the text at their front exactly if they are its bytes.
-/

namespace CoverageGate

namespace Utf8

variable {byte : UInt8} {bytes held : Bytes} {c : Char} {text : List Char} {b b' : Begun} {n : Nat}

/-! ## 1. From text to bytes -/

theorem encode_cons (c : Char) (s : List Char) :
    encode (c :: s) = String.utf8EncodeChar c ++ encode s := rfl

theorem toNat_bounds (c : Char) : c.toNat < 0xD800 ∨ 0xDFFF < c.toNat ∧ c.toNat < 0x110000 :=
  c.valid

/-- The bytes of a character by its number. -/
theorem utf8EncodeChar_eq (c : Char) :
    String.utf8EncodeChar c =
      if c.toNat ≤ 0x7F then [UInt8.ofNat c.toNat]
      else if c.toNat ≤ 0x7FF then
        [UInt8.ofNat (c.toNat / 64 % 32 + 0xC0), UInt8.ofNat (c.toNat % 64 + 0x80)]
      else if c.toNat ≤ 0xFFFF then
        [UInt8.ofNat (c.toNat / 4096 % 16 + 0xE0), UInt8.ofNat (c.toNat / 64 % 64 + 0x80),
          UInt8.ofNat (c.toNat % 64 + 0x80)]
      else
        [UInt8.ofNat (c.toNat / 262144 % 8 + 0xF0), UInt8.ofNat (c.toNat / 4096 % 64 + 0x80),
          UInt8.ofNat (c.toNat / 64 % 64 + 0x80), UInt8.ofNat (c.toNat % 64 + 0x80)] := rfl

theorem toNat_ofNat_of_lt (h : n < 256) : (UInt8.ofNat n).toNat = n := by
  simp [Nat.mod_eq_of_lt h]

/-- The first byte of a character by its number. -/
theorem step_none_of_toNat (h : byte.toNat = n) :
    step none byte =
      if n < 0x80 then .done (Char.ofNat n)
      else if n < 0xC2 then .refused
      else if n < 0xE0 then .more ⟨1, 0x80, 0xBF, n - 0xC0⟩
      else if n = 0xE0 then .more ⟨2, 0xA0, 0xBF, 0x0⟩
      else if n = 0xED then .more ⟨2, 0x80, 0x9F, 0xD⟩
      else if n < 0xF0 then .more ⟨2, 0x80, 0xBF, n - 0xE0⟩
      else if n = 0xF0 then .more ⟨3, 0x90, 0xBF, 0x0⟩
      else if n < 0xF4 then .more ⟨3, 0x80, 0xBF, n - 0xF0⟩
      else if n = 0xF4 then .more ⟨3, 0x80, 0x8F, 0x4⟩
      else .refused := h ▸ rfl

theorem step_none_of_lt (h : n < 0x80) : step none (UInt8.ofNat n) = .done (Char.ofNat n) := by
  rw [step_none_of_toNat (toNat_ofNat_of_lt (by omega)), if_pos h]

theorem step_none_two {v : Nat} (hlow : 0x80 ≤ v) (hhigh : v ≤ 0x7FF) :
    step none (UInt8.ofNat (v / 64 % 32 + 0xC0)) = .more ⟨1, 0x80, 0xBF, v / 64⟩ := by
  have hmod : v / 64 % 32 = v / 64 := by omega
  rw [step_none_of_toNat (toNat_ofNat_of_lt (by omega)), hmod, if_neg (by omega), if_neg (by omega),
    if_pos (by omega), Nat.add_sub_cancel]

/-- The first of three bytes, and the bounds that it sets for the second. -/
theorem step_none_three {v : Nat} (hlow : 0x800 ≤ v) (hhigh : v ≤ 0xFFFF)
    (hvalid : v < 0xD800 ∨ 0xDFFF < v) :
    ∃ low high, step none (UInt8.ofNat (v / 4096 % 16 + 0xE0)) = .more ⟨2, low, high, v / 4096⟩ ∧
      low ≤ v / 64 % 64 + 0x80 ∧ v / 64 % 64 + 0x80 ≤ high := by
  have hmod : v / 4096 % 16 = v / 4096 := by omega
  rw [step_none_of_toNat (toNat_ofNat_of_lt (by omega)), hmod, if_neg (by omega), if_neg (by omega),
    if_neg (by omega)]
  by_cases hfirst : v / 4096 = 0
  · rw [if_pos (by omega), hfirst]
    exact ⟨_, _, rfl, by omega, by omega⟩
  by_cases hsurrogate : v / 4096 = 0xD
  · rw [if_neg (by omega), if_pos (by omega), hsurrogate]
    exact ⟨_, _, rfl, by omega, by omega⟩
  · rw [if_neg (by omega), if_neg (by omega), if_pos (by omega), Nat.add_sub_cancel]
    exact ⟨_, _, rfl, by omega, by omega⟩

/-- The first of four bytes, and the bounds that it sets for the second. -/
theorem step_none_four {v : Nat} (hlow : 0x10000 ≤ v) (hhigh : v < 0x110000) :
    ∃ low high, step none (UInt8.ofNat (v / 262144 % 8 + 0xF0)) = .more ⟨3, low, high, v / 262144⟩ ∧
      low ≤ v / 4096 % 64 + 0x80 ∧ v / 4096 % 64 + 0x80 ≤ high := by
  have hmod : v / 262144 % 8 = v / 262144 := by omega
  rw [step_none_of_toNat (toNat_ofNat_of_lt (by omega)), hmod, if_neg (by omega), if_neg (by omega),
    if_neg (by omega), if_neg (by omega), if_neg (by omega), if_neg (by omega)]
  by_cases hfirst : v / 262144 = 0
  · rw [if_pos (by omega), hfirst]
    exact ⟨_, _, rfl, by omega, by omega⟩
  by_cases hlast : v / 262144 = 4
  · rw [if_neg (by omega), if_neg (by omega), if_pos (by omega), hlast]
    exact ⟨_, _, rfl, by omega, by omega⟩
  · rw [if_neg (by omega), if_pos (by omega), Nat.add_sub_cancel]
    exact ⟨_, _, rfl, by omega, by omega⟩

/-- A byte within the bounds goes on with a character that lacks more than one. -/
theorem step_some_more {owed low high bits m : Nat} (hlow : low ≤ m + 0x80)
    (hhigh : m + 0x80 ≤ high) (hm : m < 64) (howed : owed ≠ 0) :
    step (some ⟨owed + 1, low, high, bits⟩) (UInt8.ofNat (m + 0x80)) =
      .more ⟨owed, 0x80, 0xBF, bits * 64 + m⟩ := by
  have hn : (UInt8.ofNat (m + 0x80)).toNat = m + 0x80 := toNat_ofNat_of_lt (by omega)
  simp only [step, Option.map_some, Option.getD_some, Begun.next, hn]
  rw [if_pos ⟨hlow, hhigh⟩, if_neg (by omega), Nat.add_sub_cancel, Nat.add_sub_cancel]

theorem step_some_done {low high bits m : Nat} (hlow : low ≤ m + 0x80) (hhigh : m + 0x80 ≤ high)
    (hm : m < 64) :
    step (some ⟨1, low, high, bits⟩) (UInt8.ofNat (m + 0x80)) =
      .done (Char.ofNat (bits * 64 + m)) := by
  have hn : (UInt8.ofNat (m + 0x80)).toNat = m + 0x80 := toNat_ofNat_of_lt (by omega)
  simp only [step, Option.map_some, Option.getD_some, Begun.next, hn]
  rw [if_pos ⟨hlow, hhigh⟩, if_pos trivial, Nat.add_sub_cancel]

theorem decodeFrom_utf8EncodeChar (c : Char) (rest : Bytes) :
    decodeFrom none (String.utf8EncodeChar c ++ rest) = (decodeFrom none rest).map (c :: ·) := by
  have hbounds := toNat_bounds c
  have hdone {n : Nat} (h : n = c.toNat) : Char.ofNat n = c := h ▸ Char.ofNat_toNat c
  rw [utf8EncodeChar_eq]
  split_ifs with h1 h2 h3
  · rw [List.singleton_append, decodeFrom_cons, step_none_of_lt (by omega), hdone rfl]
  · rw [List.cons_append, List.singleton_append, decodeFrom_cons, step_none_two (by omega) h2]
    dsimp only
    rw [decodeFrom_cons, step_some_done (by omega) (by omega) (by omega), hdone (by omega)]
  · obtain ⟨low, high, hfirst, hlow, hhigh⟩ :=
      step_none_three (by omega) h3 (by omega : c.toNat < 0xD800 ∨ 0xDFFF < c.toNat)
    simp only [List.cons_append, List.nil_append]
    rw [decodeFrom_cons, hfirst]
    dsimp only
    rw [decodeFrom_cons, step_some_more hlow hhigh (by omega) (by omega)]
    dsimp only
    rw [decodeFrom_cons, step_some_done (by omega) (by omega) (by omega), hdone (by omega)]
  · obtain ⟨low, high, hfirst, hlow, hhigh⟩ :=
      step_none_four (by omega : 0x10000 ≤ c.toNat) (by omega)
    simp only [List.cons_append, List.nil_append]
    rw [decodeFrom_cons, hfirst]
    dsimp only
    rw [decodeFrom_cons, step_some_more hlow hhigh (by omega) (by omega)]
    dsimp only
    rw [decodeFrom_cons, step_some_more (by omega) (by omega) (by omega) (by omega)]
    dsimp only
    rw [decodeFrom_cons, step_some_done (by omega) (by omega) (by omega), hdone (by omega)]

theorem decodeFrom_encode (s : List Char) : decodeFrom none (encode s) = some s := by
  induction s with
  | nil => rfl
  | cons c s ih => rw [encode_cons, decodeFrom_utf8EncodeChar, ih, Option.map_some]

/-! ## 2. From bytes to text -/

/-- The last bytes of a character with this number. -/
def lastBytes (n : Nat) : Nat → Bytes
  | 0 => []
  | k + 1 => UInt8.ofNat (n / 64 ^ k % 64 + 0x80) :: lastBytes n k

/-- Whatever follows, the held bytes open a character. -/
structure Opens (held : Bytes) (b : Begun) : Prop where
  owed : b.owed ≠ 0
  bounds : 0x80 ≤ b.low ∧ b.high ≤ 0xBF
  spells : ∀ n, n / 64 ^ b.owed = b.bits → b.low ≤ n / 64 ^ (b.owed - 1) % 64 + 0x80 →
    n / 64 ^ (b.owed - 1) % 64 + 0x80 ≤ b.high →
      String.utf8EncodeChar (Char.ofNat n) = held ++ lastBytes n b.owed

theorem toNat_ofNat_of_valid (h : n < 0xD800 ∨ 0xDFFF < n ∧ n < 0x110000) :
    (Char.ofNat n).toNat = n := by
  have hvalid : n.isValidChar := h
  exact (congrArg Char.toNat (dif_pos hvalid)).trans rfl

theorem ofNat_toNat_eq (h : byte.toNat = n) : UInt8.ofNat n = byte := by
  rw [← h, UInt8.ofNat_toNat]

variable {low high bits : Nat}

/-- The first of two bytes opens a character. -/
theorem opens_two (hbyte : byte.toNat = bits + 0xC0) (hlow : 2 ≤ bits) (hhigh : bits < 32) :
    Opens [byte] ⟨1, 0x80, 0xBF, bits⟩ := by
  refine ⟨Nat.one_ne_zero, ⟨Nat.le_refl _, Nat.le_refl _⟩, fun n hbits _ _ => ?_⟩
  simp only [Nat.pow_one] at hbits
  have hfirst : UInt8.ofNat (n / 64 % 32 + 0xC0) = byte := ofNat_toNat_eq (by omega)
  rw [utf8EncodeChar_eq, toNat_ofNat_of_valid (by omega), if_neg (by omega), if_pos (by omega),
    hfirst]
  simp only [lastBytes, Nat.pow_zero, Nat.div_one, List.singleton_append]

/-- The first of three bytes opens a character where the bounds keep out what fewer bytes can spell,
and surrogates. -/
theorem opens_three (hbyte : byte.toNat = bits + 0xE0) (hbits : bits < 16) (hlow : 0x80 ≤ low)
    (hhigh : high ≤ 0xBF) (hlong : bits = 0 → 0xA0 ≤ low) (hvalid : bits = 0xD → high ≤ 0x9F) :
    Opens [byte] ⟨2, low, high, bits⟩ := by
  refine ⟨Nat.succ_ne_zero _, ⟨hlow, hhigh⟩, fun n hn hn' hn'' => ?_⟩
  simp only [Nat.reducePow, Nat.reduceSub] at hn hn' hn''
  have hfirst : UInt8.ofNat (n / 4096 % 16 + 0xE0) = byte := ofNat_toNat_eq (by omega)
  rw [utf8EncodeChar_eq, toNat_ofNat_of_valid (by omega), if_neg (by omega), if_neg (by omega),
    if_pos (by omega), hfirst]
  simp only [lastBytes, Nat.reducePow, Nat.div_one, List.singleton_append]

/-- The first of four bytes opens a character where the bounds keep out what fewer bytes can spell,
and what is above the last plane. -/
theorem opens_four (hbyte : byte.toNat = bits + 0xF0) (hbits : bits ≤ 4) (hlow : 0x80 ≤ low)
    (hhigh : high ≤ 0xBF) (hlong : bits = 0 → 0x90 ≤ low) (hvalid : bits = 4 → high ≤ 0x8F) :
    Opens [byte] ⟨3, low, high, bits⟩ := by
  refine ⟨Nat.succ_ne_zero _, ⟨hlow, hhigh⟩, fun n hn hn' hn'' => ?_⟩
  simp only [Nat.reducePow, Nat.reduceSub] at hn hn' hn''
  have hfirst : UInt8.ofNat (n / 262144 % 8 + 0xF0) = byte := ofNat_toNat_eq (by omega)
  rw [utf8EncodeChar_eq, toNat_ofNat_of_valid (by omega), if_neg (by omega), if_neg (by omega),
    if_neg (by omega), hfirst]
  simp only [lastBytes, Nat.reducePow, Nat.div_one, List.singleton_append]

theorem opens_of_first (h : first byte = .more b) : Opens [byte] b := by
  have hstep : step none byte = .more b := h
  rw [step_none_of_toNat rfl] at hstep
  split_ifs at hstep <;> cases hstep
  · exact opens_two (by omega) (by omega) (by omega)
  iterate 3 exact opens_three (by omega) (by omega) (by omega) (by omega) (by omega) (by omega)
  iterate 3 exact opens_four (by omega) (by omega) (by omega) (by omega) (by omega) (by omega)

theorem Opens.of_next (h : Opens held b) (hnext : b.next byte = .more b') :
    Opens (held ++ [byte]) b' := by
  obtain ⟨owed, low, high, bits⟩ := b
  obtain ⟨howed, ⟨hlow, hhigh⟩, hspells⟩ := h
  simp only [Begun.next] at hnext howed hlow hhigh hspells
  split_ifs at hnext with hbounds hlast
  obtain rfl := Step.more.inj hnext
  obtain ⟨k, rfl⟩ : ∃ k, owed = k + 2 := ⟨owed - 2, by omega⟩
  refine ⟨by simp, by simp, fun n hbits _ _ => ?_⟩
  simp only [Nat.add_one_sub_one] at hbits hspells ⊢
  have hmore : n / 64 ^ (k + 2) = n / 64 ^ (k + 1) / 64 := by
    rw [Nat.div_div_eq_div_mul, ← Nat.pow_succ]
  have hbyte : UInt8.ofNat (n / 64 ^ (k + 1) % 64 + 0x80) = byte := ofNat_toNat_eq (by omega)
  rw [hspells n (by omega) (by omega) (by omega), lastBytes, hbyte, List.append_assoc,
    List.singleton_append]

/-- The last byte completes the bytes of a character. -/
theorem Opens.encode_of_next (h : Opens held b) (hnext : b.next byte = .done c) :
    String.utf8EncodeChar c = held ++ [byte] := by
  obtain ⟨owed, low, high, bits⟩ := b
  obtain ⟨-, ⟨hlow, hhigh⟩, hspells⟩ := h
  simp only [Begun.next] at hnext hlow hhigh hspells
  split_ifs at hnext with hbounds hlast
  subst hlast
  obtain rfl := Step.done.inj hnext
  simp only [Nat.pow_one, Nat.sub_self, Nat.pow_zero, Nat.div_one] at hspells
  generalize hn : bits * 64 + (byte.toNat - 0x80) = n at hspells ⊢
  have hbyte : UInt8.ofNat (n % 64 + 0x80) = byte := ofNat_toNat_eq (by omega)
  rw [hspells n (by omega) (by omega) (by omega), lastBytes, lastBytes, Nat.pow_zero, Nat.div_one,
    hbyte]

theorem encode_of_first (h : first byte = .done c) : String.utf8EncodeChar c = [byte] := by
  simp only [first] at h
  split_ifs at h with hbyte
  obtain rfl := Step.done.inj h
  rw [utf8EncodeChar_eq, toNat_ofNat_of_valid (by omega), if_pos (by omega), ofNat_toNat_eq rfl]

/-- What the reader holds between two bytes. -/
def Holds (held : Bytes) : Option Begun → Prop
  | none => held = []
  | some b => Opens held b

variable {state : Option Begun}

theorem holds_nil : Holds [] none := rfl

theorem Holds.of_step (h : Holds held state) (hstep : step state byte = .more b) :
    Holds (held ++ [byte]) (some b) := by
  cases state with
  | none =>
    obtain rfl : held = [] := h
    exact opens_of_first hstep
  | some b' => exact Opens.of_next h hstep

theorem Holds.encode_of_step (h : Holds held state) (hstep : step state byte = .done c) :
    String.utf8EncodeChar c = held ++ [byte] := by
  cases state with
  | none =>
    obtain rfl : held = [] := h
    exact encode_of_first hstep
  | some b' => exact Opens.encode_of_next h hstep

theorem Holds.encode_eq (h : Holds held state) (htext : decodeFrom state bytes = some text) :
    encode text = held ++ bytes := by
  induction bytes generalizing held state text with
  | nil =>
    cases state with
    | none =>
      obtain rfl : held = [] := h
      obtain rfl := Option.some.inj htext
      rfl
    | some b => cases htext
  | cons byte bytes ih =>
    rw [decodeFrom_cons] at htext
    cases hstep : step state byte with
    | done c =>
      simp only [hstep, Option.map_eq_some_iff] at htext
      obtain ⟨more, hmore, rfl⟩ := htext
      rw [encode_cons, h.encode_of_step hstep, ih holds_nil hmore, List.nil_append,
        List.append_assoc, List.singleton_append]
    | more b =>
      simp only [hstep] at htext
      rw [ih (h.of_step hstep) htext, List.append_assoc, List.singleton_append]
    | refused => simp [hstep] at htext

theorem decodeFrom_eq_some_iff : decodeFrom none bytes = some text ↔ bytes = encode text := by
  constructor
  · intro h
    exact (holds_nil.encode_eq h).symm
  · rintro rfl
    exact decodeFrom_encode text

/-- Bytes are read as a string exactly if they are its bytes. -/
theorem decode?_eq_some_iff {s : String} : decode? bytes = some s ↔ bytes = ofString s := by
  rw [decode?, Option.map_eq_some_iff]
  constructor
  · rintro ⟨text, htext, rfl⟩
    rw [ofString, String.toList_ofList]
    exact decodeFrom_eq_some_iff.mp htext
  · rintro rfl
    exact ⟨s.toList, decodeFrom_encode _, String.ofList_toList⟩

theorem ofString_injective {s t : String} (h : ofString s = ofString t) : s = t := by
  have hs : decode? (ofString s) = some s := decode?_eq_some_iff.mpr rfl
  have ht : decode? (ofString s) = some t := decode?_eq_some_iff.mpr h
  exact Option.some.inj (hs.symm.trans ht)

/-! ## 3. The text at the front -/

theorem splitFrom_eq_iff (h : held = [] ↔ state = none) :
    splitFrom held state bytes = (text, []) ↔ decodeFrom state bytes = some text := by
  induction bytes generalizing held state text with
  | nil => cases state <;> simp_all [splitFrom, decodeFrom, eq_comm]
  | cons byte bytes ih =>
    rw [decodeFrom_cons]
    cases hstep : step state byte with
    | done c =>
      have hsplit : splitFrom held state (byte :: bytes) =
          (c :: (splitFrom [] none bytes).1, (splitFrom [] none bytes).2) := by
        rw [splitFrom, ← step, hstep]
      have hrest {more : List Char} := @ih [] more none (by simp)
      simp only [hsplit, Option.map_eq_some_iff, ← hrest, Prod.ext_iff]
      constructor
      · rintro ⟨rfl, hleft⟩
        exact ⟨_, ⟨rfl, hleft⟩, rfl⟩
      · rintro ⟨more, ⟨rfl, hleft⟩, rfl⟩
        exact ⟨rfl, hleft⟩
    | more b =>
      have hsplit : splitFrom held state (byte :: bytes) =
          splitFrom (held ++ [byte]) (some b) bytes := by
        rw [splitFrom, ← step, hstep]
      rw [hsplit]
      exact ih (by simp)
    | refused =>
      have hsplit : splitFrom held state (byte :: bytes) = ([], held ++ byte :: bytes) := by
        rw [splitFrom, ← step, hstep]
      simp [hsplit]

/-- All bytes are text exactly if they are the bytes of that text. -/
theorem splitText_eq_iff : splitText bytes = (text, []) ↔ bytes = encode text := by
  rw [splitText, splitFrom_eq_iff (by simp), decodeFrom_eq_some_iff]

end Utf8
end CoverageGate
