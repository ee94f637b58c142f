import CoverageGate.Text.Utf8
import Mathlib.Data.List.Forall2

/-!
# Lines of a file

A line feed is a byte of a file and a character of its text.  This file says that the two are the
same places: no part of another character is a line feed, so that the lines of the text are the
texts of the lines.

* `decodeFrom_splitOn`: reading line by line and reading as a whole agree.
* `decode?_eq_none_iff`: a file is no text exactly if one of its lines is none.
* `EndsWithReturns`: two lists that differ in the way some of their lines end;
  `EndsWithReturns.splitOn` says what that makes of the lines, and `decodeFrom_endsWithReturns` that
  it is the same for bytes and characters.
-/

namespace CoverageGate

namespace Utf8

/-- The byte of a line feed. -/
def lineFeed : UInt8 := 0x0A

/-- The byte of a carriage return. -/
def carriageReturn : UInt8 := 0x0D

/-! ## 1. The reader between two bytes -/

/-- What holds of every character begun: no ASCII byte can go on with it, and it will not be an
ASCII character, which shows in the bits read so far and the lower bound of the next byte. -/
structure Begun.Sound (b : Begun) : Prop where
  low : 0x80 ≤ b.low
  bits : 2 ≤ b.bits * 64 + (b.low - 0x80)
  bits_of_last : b.owed = 1 → 0x80 ≤ b.bits * 64 + (b.low - 0x80)

/-- What holds of every state of the reader. -/
def Sound (state : Option Begun) : Prop := ∀ b ∈ state, b.Sound

/-- What a byte makes of a state. -/
def step (state : Option Begun) (byte : UInt8) : Step :=
  (state.map (·.next byte)).getD (first byte)

theorem decodeFrom_cons (state : Option Begun) (byte : UInt8) (rest : Bytes) :
    decodeFrom state (byte :: rest) =
      match step state byte with
      | .done c => (decodeFrom none rest).map (c :: ·)
      | .more b => decodeFrom (some b) rest
      | .refused => none := by
  cases state <;> rfl

variable {state : Option Begun} {b b' : Begun} {byte : UInt8} {c : Char} {line bytes : Bytes}
  {text : List Char}

theorem sound_none : Sound none := nofun

theorem sound_some_iff : Sound (some b) ↔ b.Sound := by simp [Sound]

theorem sound_of_first (h : first byte = .more b) : b.Sound := by
  simp only [first] at h
  split_ifs at h <;> cases h <;> constructor <;> simp only <;> omega

theorem Begun.Sound.of_next (hb : b.Sound) (h : b.next byte = .more b') : b'.Sound := by
  simp only [Begun.next] at h
  split_ifs at h with hbounds hlast
  obtain rfl := Step.more.inj h
  have := hb.bits
  constructor <;> simp only <;> omega

theorem Sound.of_step (hs : Sound state) (h : step state byte = .more b) : Sound (some b) := by
  rw [sound_some_iff]
  cases state with
  | none => exact sound_of_first h
  | some b' => exact (sound_some_iff.mp hs).of_next h

/-- No ASCII byte goes on with a character. -/
theorem Begun.Sound.next_eq_refused (hb : b.Sound) (hbyte : byte.toNat < 0x80) :
    b.next byte = .refused := by
  have := hb.low
  simp only [Begun.next]
  exact if_neg (by omega)

theorem eq_of_ofNat_eq_newline {n : Nat} (h : Char.ofNat n = '\n') : n = 0x0A := by
  by_cases hvalid : n.isValidChar
  · have hn : Char.ofNatAux n hvalid = '\n' := (dif_pos hvalid).symm.trans h
    exact congrArg Char.toNat hn
  · have hzero := congrArg Char.toNat ((dif_neg hvalid).symm.trans h)
    cases hzero

/-- Only a line feed is read as one. -/
theorem Sound.ne_newline_of_step (hs : Sound state) (h : step state byte = .done c)
    (hbyte : byte ≠ lineFeed) : c ≠ '\n' := by
  rintro rfl
  cases state with
  | none =>
    simp only [step, Option.map_none, Option.getD_none, first] at h
    split_ifs at h
    have hn := eq_of_ofNat_eq_newline (Step.done.inj h)
    exact hbyte (UInt8.toNat_inj.mp hn)
  | some b =>
    simp only [step, Option.map_some, Option.getD_some, Begun.next] at h
    split_ifs at h with hbounds hlast
    have hn := eq_of_ofNat_eq_newline (Step.done.inj h)
    have := (sound_some_iff.mp hs).bits_of_last hlast
    omega

/-! ## 2. Lines of bytes and of text -/

/-- A line feed ends a line of the bytes and one of the text. -/
theorem decodeFrom_append_lineFeed (hs : Sound state) (line rest : Bytes) :
    decodeFrom state (line ++ lineFeed :: rest) =
      (decodeFrom state line).bind fun text =>
        (decodeFrom none rest).map fun more => text ++ '\n' :: more := by
  induction line generalizing state with
  | nil =>
    rw [List.nil_append, decodeFrom_cons]
    cases state with
    | none => rfl
    | some b =>
      -- both sides are ill-formed: the line ends within a character
      have hrefused : step (some b) lineFeed = .refused :=
        (sound_some_iff.mp hs).next_eq_refused (by decide)
      simp [hrefused, decodeFrom]
  | cons byte line ih =>
    rw [List.cons_append, decodeFrom_cons, decodeFrom_cons]
    cases hstep : step state byte with
    | done c =>
      simp only [ih sound_none]
      cases decodeFrom none line <;> cases decodeFrom none rest <;> rfl
    | more b => exact ih (hs.of_step hstep)
    | refused => rfl

theorem newline_notMem_of_decodeFrom (hs : Sound state) (hline : lineFeed ∉ line)
    (h : decodeFrom state line = some text) : '\n' ∉ text := by
  induction line generalizing state text with
  | nil =>
    cases state with
    | none =>
      obtain rfl := Option.some.inj h
      exact List.not_mem_nil
    | some b => cases h
  | cons byte line ih =>
    obtain ⟨hbyte, hrest⟩ := not_or.mp (mt List.mem_cons.mpr hline)
    rw [decodeFrom_cons] at h
    cases hstep : step state byte with
    | done c =>
      simp only [hstep, Option.map_eq_some_iff] at h
      obtain ⟨more, hmore, rfl⟩ := h
      have hc := hs.ne_newline_of_step hstep (Ne.symm hbyte)
      exact mt List.mem_cons.mp (not_or.mpr ⟨hc.symm, ih sound_none hrest hmore⟩)
    | more b =>
      simp only [hstep] at h
      exact ih (hs.of_step hstep) hrest h
    | refused => simp [hstep] at h

/-- **The lines of the text are the texts of the lines.** -/
theorem decodeFrom_splitOn (bytes : Bytes) :
    (decodeFrom none bytes).map (·.splitOn '\n') =
      (bytes.splitOn lineFeed).mapM (decodeFrom none) := by
  -- on the number of bytes: the rest behind the first line feed is shorter
  induction hlength : bytes.length using Nat.strongRecOn generalizing bytes with
  | ind n ih =>
  by_cases hmem : lineFeed ∈ bytes
  · obtain ⟨line, rest, rfl, hline⟩ := List.eq_append_cons_of_mem hmem
    have hrest := ih rest.length (by simp [← hlength]; omega) rest rfl
    rw [decodeFrom_append_lineFeed sound_none, List.splitOn_append_cons_self_of_not_mem hline,
      List.mapM_cons, ← hrest]
    cases htext : decodeFrom none line with
    | none => rfl
    | some text =>
      have hfree := newline_notMem_of_decodeFrom sound_none hline htext
      cases decodeFrom none rest with
      | none => rfl
      | some more => simp [List.splitOn_append_cons_self_of_not_mem hfree]
  · rw [List.splitOn_eq_singleton hmem, List.mapM_cons]
    cases htext : decodeFrom none bytes with
    | none => rfl
    | some text =>
      have hfree := newline_notMem_of_decodeFrom sound_none hmem htext
      simp [List.splitOn_eq_singleton hfree]

theorem mapM_eq_none_iff {α β : Type} {f : α → Option β} {l : List α} :
    l.mapM f = none ↔ ∃ a ∈ l, f a = none := by
  induction l with
  | nil => simp
  | cons a l ih =>
    rw [List.mapM_cons]
    cases ha : f a with
    | none => simp [ha]
    | some b =>
      cases hl : l.mapM f with
      | none => simpa [ha, hl] using ih
      | some more => simpa [ha, hl] using ih

/-- A file is no text exactly if one of its lines is none. -/
theorem decode?_eq_none_iff :
    decode? bytes = none ↔ ∃ line ∈ bytes.splitOn lineFeed, decode? line = none := by
  have h := decodeFrom_splitOn bytes
  simp only [decode?, Option.map_eq_none_iff, ← mapM_eq_none_iff, ← h]

end Utf8

/-! ## 3. Ends of lines -/

/-- The second list is the first one with some of its line ends, each a `feed`, spelled as a `ret`
and a `feed`. -/
inductive EndsWithReturns {α : Type} (ret feed : α) : List α → List α → Prop
  | nil : EndsWithReturns ret feed [] []
  | keep (a : α) {l l' : List α} (h : EndsWithReturns ret feed l l') :
      EndsWithReturns ret feed (a :: l) (a :: l')
  | add {l l' : List α} (h : EndsWithReturns ret feed l l') :
      EndsWithReturns ret feed (feed :: l) (ret :: feed :: l')

/-- The lines of the second list are those of the first, some of them with a `ret` at the end. -/
theorem EndsWithReturns.splitOn {α : Type} [DecidableEq α] {ret feed : α} {l l' : List α}
    (hne : ret ≠ feed) (h : EndsWithReturns ret feed l l') :
    List.Forall₂ (fun line line' => line' = line ∨ line' = line ++ [ret])
      (l.splitOn feed) (l'.splitOn feed) := by
  induction h with
  | nil => exact .cons (.inl rfl) .nil
  | @keep a l l' h ih =>
    rw [List.splitOn_cons_eq_if_modifyHead, List.splitOn_cons_eq_if_modifyHead]
    split
    · exact .cons (.inl rfl) ih
    · generalize l.splitOn feed = lines, l'.splitOn feed = lines' at ih ⊢
      cases ih with
      | nil => exact .nil
      | cons hline hmore =>
        refine .cons ?_ hmore
        rcases hline with rfl | rfl
        · exact .inl rfl
        · exact .inr rfl
  | add h ih =>
    simp only [List.splitOn_cons_eq_if_modifyHead, beq_self_eq_true, if_true,
      beq_eq_false_iff_ne.mpr hne, Bool.false_eq_true, if_false, List.modifyHead_cons]
    exact .cons (.inr rfl) ih

theorem optionRel_map {α β : Type} {r : α → α → Prop} {s : β → β → Prop} {f g : α → β}
    {a b : Option α} (h : Option.Rel r a b) (hfg : ∀ x y, r x y → s (f x) (g y)) :
    Option.Rel s (a.map f) (b.map g) := by
  cases h with
  | none => exact .none
  | some h => exact .some (hfg _ _ h)

namespace Utf8

/-- What is a line end among the bytes is one among the characters, spelled in the same way. -/
theorem decodeFrom_endsWithReturns {state : Option Begun} {bytes bytes' : Bytes} (hs : Sound state)
    (h : EndsWithReturns carriageReturn lineFeed bytes bytes') :
    Option.Rel (EndsWithReturns '\r' '\n') (decodeFrom state bytes) (decodeFrom state bytes') := by
  induction h generalizing state with
  | nil =>
    cases state with
    | none => exact .some .nil
    | some b => exact .none
  | keep byte h ih =>
    rw [decodeFrom_cons, decodeFrom_cons]
    cases hstep : step state byte with
    | done c => exact optionRel_map (ih sound_none) fun _ _ => .keep c
    | more b => exact ih (hs.of_step hstep)
    | refused => exact .none
  | add h ih =>
    cases state with
    | none =>
      have hret : step none carriageReturn = .done '\r' := rfl
      have hfeed : step none lineFeed = .done '\n' := rfl
      simp only [decodeFrom_cons, hret, hfeed, Option.map_map]
      exact optionRel_map (ih sound_none) fun _ _ => .add
    | some b =>
      have hb := sound_some_iff.mp hs
      have hfeed : step (some b) lineFeed = .refused := hb.next_eq_refused (by decide)
      have hret : step (some b) carriageReturn = .refused := hb.next_eq_refused (by decide)
      simp only [decodeFrom_cons, hfeed, hret]
      exact .none

end Utf8

end CoverageGate
