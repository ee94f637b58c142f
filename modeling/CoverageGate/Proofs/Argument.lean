import CoverageGate.CommandLine.Reading
import CoverageGate.Proofs.Encoding
import Mathlib.Data.List.TakeWhile

/-!
# One argument

An argument is a value, an option, or the two dashes behind which there are only values.  What it
makes of a reading depends on its shape and on whether an option waits for its value.

* `IsValue`: the arguments that can be values in a scope.
* `Taken`: what an argument makes of a reading, one constructor for each shape.
* `Reading.take_eq_ok_iff`: arguments are taken exactly in these ways.
-/

namespace CoverageGate

namespace CommandLine

variable {scope : Scope} {r r' : Reading} {word value : Bytes} {name : String}
  {option : Argument} {values : Values}

/-! ## 1. Words -/

/-- The argument behind which there are only values. -/
def dashes : Bytes := [Reading.minus, Reading.minus]

/-- The argument that names an option. -/
def longWord (name : String) : Bytes := Reading.minus :: Reading.minus :: Utf8.ofString name

/-- The argument that names an option and gives it a value. -/
def assignedWord (name : String) (value : Bytes) : Bytes :=
  Reading.minus :: Reading.minus :: (Utf8.ofString name ++ Reading.equals :: value)

/-- The short argument that asks for a full log. -/
def shortVerbose : Bytes := [Reading.minus, 0x76]

/-- The arguments that can be values: those without a minus sign in front, the minus sign alone, and
negative numbers where scores are given. -/
inductive IsValue (scope : Scope) : Bytes → Prop
  | empty : IsValue scope []
  | plain {first : UInt8} {rest : Bytes} (h : first ≠ Reading.minus) :
      IsValue scope (first :: rest)
  | minus : IsValue scope [Reading.minus]
  | number {digits : List Char} (hscope : scope.takesNegativeNumbers = true)
      (h : Reading.isNumber digits = true) : IsValue scope (Reading.minus :: Utf8.encode digits)

/-- A number starts with a digit, which is one byte. -/
theorem exists_encode_number {digits : List Char} (h : Reading.isNumber digits = true) :
    ∃ first rest, Utf8.encode digits = first :: rest ∧ 0x30 ≤ first.toNat ∧ first.toNat ≤ 0x39 := by
  cases digits with
  | nil => cases h
  | cons c more =>
    have hc : Double.isDigit c = true := by
      by_contra hc
      simp [Reading.isNumber, hc] at h
    simp only [Double.isDigit, Char.le_def, decide_eq_true_eq] at hc
    have hbounds : 0x30 ≤ c.toNat ∧ c.toNat ≤ 0x39 := hc
    refine ⟨UInt8.ofNat c.toNat, Utf8.encode more, ?_, ?_⟩
    · rw [Utf8.encode_cons, Utf8.utf8EncodeChar_eq, if_pos (by omega), List.singleton_append]
    · rw [Utf8.toNat_ofNat_of_lt (by omega)]
      exact hbounds

/-! ## 2. What one argument makes of a reading -/

/-- Two steps end well exactly if both do. -/
theorem bind_eq_ok_iff {ε α β : Type} {x : Except ε α} {f : α → Except ε β} {b : β} :
    x >>= f = .ok b ↔ ∃ a, x = .ok a ∧ f a = .ok b := by
  cases x <;> simp [bind, Except.bind]

namespace Reading

theorem takePlace_eq_ok_iff :
    r.takePlace scope word = .ok r' ↔
      ∃ place places values, r.places = place :: places ∧ r.settled = .ok values ∧
        r' = ⟨values, places, some ⟨place, some word⟩, r.literal⟩ := by
  rw [takePlace]
  cases hplaces : r.places with
  | nil => simp [refuse]
  | cons place places =>
    cases hsettled : r.settled <;>
      simp [settle, hsettled, bind, Except.bind, pure, Except.pure, eq_comm]

theorem takeFlag_eq_ok_iff {flag : Argument}
    (hflag : flag = .verbose ∨ flag = .help ∨ flag = .version) :
    r.takeFlag scope flag = .ok r' ↔
      flag = .verbose ∧ ∃ values, r.settled = .ok values ∧ values.verbose = false ∧
        r' = ⟨{ values with verbose := true }, r.places, none, r.literal⟩ := by
  rw [takeFlag]
  cases hsettled : r.settled with
  | error halt => simp [settle, hsettled, bind, Except.bind]
  | ok values =>
    simp only [settle, hsettled, bind, Except.bind, pure, Except.pure]
    rcases hflag with rfl | rfl | rfl
    · cases hverbose : values.verbose with
      | true => simp [refuse, hverbose]
      | false => simp [hverbose, eq_comm (b := r')]
    · simp
    · simp

/-- The options of a scope are found by their names. -/
theorem find?_options {entry : String × Argument} (h : entry ∈ scope.options) :
    (scope.options.find? fun (known, _) => Utf8.ofString known == Utf8.ofString entry.1) =
      some entry := by
  revert entry
  rcases scope with _ | (_ | _ | _) <;> decide +kernel

/-- No name of an option holds an equals sign, and each has a letter. -/
theorem ofString_name {entry : String × Argument} (h : entry ∈ scope.options) :
    equals ∉ Utf8.ofString entry.1 ∧ Utf8.ofString entry.1 ≠ [] := by
  revert entry
  rcases scope with _ | (_ | _ | _) <;> decide +kernel

/-- Each option has a value, or is a flag. -/
theorem hasValue_or_flag {entry : String × Argument} (h : entry ∈ scope.options) :
    hasValue entry.2 = true ∨
      entry = ("verbose", .verbose) ∨ entry.2 = .help ∨ entry.2 = .version := by
  revert entry
  rcases scope with _ | (_ | _ | _) <;> decide +kernel

/-- Every scope has the option for a full log. -/
theorem verbose_mem_options : ("verbose", .verbose) ∈ scope.options := by
  rcases scope with _ | (_ | _ | _) <;> decide

/-- An option of the scope stands behind a long name, or the name is refused. -/
theorem exists_of_takeLong {body : Bytes} {given : Option Bytes}
    (h : r.takeLong scope body given = .ok r') :
    ∃ entry ∈ scope.options, body = Utf8.ofString entry.1 := by
  rw [takeLong] at h
  cases hfind : scope.options.find? fun (known, _) => Utf8.ofString known == body with
  | none => simp [hfind, refuse] at h
  | some entry =>
    refine ⟨entry, List.mem_of_find?_eq_some hfind, ?_⟩
    have hname := List.find?_some hfind
    exact (beq_iff_eq.mp hname).symm

theorem takeLong_none_eq_ok_iff {entry : String × Argument} (hentry : entry ∈ scope.options) :
    r.takeLong scope (Utf8.ofString entry.1) none = .ok r' ↔
      ∃ values, r.settled = .ok values ∧
        (hasValue entry.2 = true ∧ r' = ⟨values, r.places, some ⟨entry.2, none⟩, r.literal⟩ ∨
          entry = ("verbose", .verbose) ∧ values.verbose = false ∧
            r' = ⟨{ values with verbose := true }, r.places, none, r.literal⟩) := by
  rw [takeLong, find?_options hentry]
  obtain ⟨name, option⟩ := entry
  rcases hasValue_or_flag hentry with hvalue | hverbose | hother
  · have hname : (name, option) ≠ ("verbose", .verbose) := by
      rintro ⟨⟩
      cases hvalue
    simp only [hvalue, settle]
    cases r.settled <;> simp [hname, bind, Except.bind, pure, Except.pure, eq_comm (b := r')]
  · obtain ⟨rfl, rfl⟩ := Prod.mk.inj hverbose
    simp only [hasValue, takeFlag_eq_ok_iff (.inl rfl)]
    simp
  · have hvalue : hasValue option = false := by rcases hother with h | h <;> simp_all [hasValue]
    have hname : (name, option) ≠ ("verbose", .verbose) := by
      rintro ⟨⟩
      simp at hother
    simp only [hvalue, takeFlag_eq_ok_iff (.inr hother), hname]
    rcases hother with h | h <;> simp only at h <;> simp [h]

theorem takeLong_some_eq_ok_iff {entry : String × Argument} (hentry : entry ∈ scope.options) :
    r.takeLong scope (Utf8.ofString entry.1) (some value) = .ok r' ↔
      ∃ values values', hasValue entry.2 = true ∧ r.settled = .ok values ∧
        values.set entry.2 value = .ok values' ∧ r' = ⟨values', r.places, none, r.literal⟩ := by
  rw [takeLong, find?_options hentry]
  cases hvalue : hasValue entry.2 with
  | false => simp [hvalue, refuse]
  | true =>
    simp only [hvalue, settle]
    cases hsettled : r.settled with
    | error halt => simp [bind, Except.bind]
    | ok values =>
      simp only [bind, Except.bind, pure, Except.pure, settled]
      cases hset : values.set entry.2 value <;> simp [hset, Except.mapError, eq_comm (b := r')]

theorem verbose_or_halt_of_mem_shortOptions {entry : Char × Argument}
    (h : entry ∈ scope.shortOptions) :
    entry = ('v', .verbose) ∨ entry.2 = .help ∨ entry.2 = .version := by
  revert entry
  rcases scope with _ | (_ | _ | _) <;> decide

theorem lookup_shortOptions_verbose : scope.shortOptions.lookup 'v' = some .verbose := by
  cases scope <;> rfl

theorem takeShort_cons_eq_ok_iff {letter : Char} {rest : List Char} :
    r.takeShort scope (letter :: rest) = .ok r' ↔
      letter = 'v' ∧ ∃ values, r.settled = .ok values ∧ values.verbose = false ∧
        takeShort scope ⟨{ values with verbose := true }, r.places, none, r.literal⟩ rest
          = .ok r' := by
  rw [takeShort]
  cases hlookup : scope.shortOptions.lookup letter with
  | none =>
    have hletter : letter ≠ 'v' := by
      rintro rfl
      simp [lookup_shortOptions_verbose] at hlookup
    simp [refuse, hletter]
  | some flag =>
    obtain ⟨before, behind, hoptions, -⟩ := List.lookup_eq_some_iff.mp hlookup
    have hmem : (letter, flag) ∈ scope.shortOptions := by simp [hoptions]
    rw [bind_eq_ok_iff]
    rcases verbose_or_halt_of_mem_shortOptions hmem with hverbose | hhalt
    · obtain ⟨rfl, rfl⟩ := Prod.mk.inj hverbose
      simp [takeFlag_eq_ok_iff (.inl rfl), and_assoc]
    · have hflag : flag ≠ .verbose := by rcases hhalt with h | h <;> simp_all
      have hletter : letter ≠ 'v' := by
        rintro rfl
        simp [lookup_shortOptions_verbose, hflag.symm] at hlookup
      simp [takeFlag_eq_ok_iff (.inr hhalt), hflag, hletter]

/-- Of short options only the one for a full log leads on, and only once. -/
theorem takeShort_eq_ok_iff {letters : List Char} (h : letters ≠ []) :
    r.takeShort scope letters = .ok r' ↔
      letters = ['v'] ∧ ∃ values, r.settled = .ok values ∧ values.verbose = false ∧
        r' = ⟨{ values with verbose := true }, r.places, none, r.literal⟩ := by
  obtain ⟨letter, rest, rfl⟩ := List.exists_cons_of_ne_nil h
  rw [takeShort_cons_eq_ok_iff]
  cases rest with
  | nil => simp [takeShort, eq_comm (b := r')]
  | cons second rest =>
    simp only [takeShort_cons_eq_ok_iff, settled, Except.ok.injEq]
    simp

end Reading

/-- What one argument makes of a reading that has not come to the two dashes. -/
inductive Taken (scope : Scope) (r : Reading) : Bytes → Reading → Prop
  | value {option : Argument} {word : Bytes} (hpending : r.pending = some ⟨option, none⟩)
      (hword : IsValue scope word) :
      Taken scope r word { r with pending := some ⟨option, some word⟩ }
  | place {place : Argument} {places : List Argument} {values : Values} {word : Bytes}
      (hword : IsValue scope word) (hplaces : r.places = place :: places)
      (hsettled : r.settled = .ok values) :
      Taken scope r word ⟨values, places, some ⟨place, some word⟩, r.literal⟩
  | literal : Taken scope r dashes { r with literal := true }
  | verbose {word : Bytes} {values : Values}
      (hword : word = shortVerbose ∨ word = longWord "verbose")
      (hsettled : r.settled = .ok values) (hverbose : values.verbose = false) :
      Taken scope r word ⟨{ values with verbose := true }, r.places, none, r.literal⟩
  | option {name : String} {option : Argument} {values : Values}
      (hoption : (name, option) ∈ scope.options) (hvalue : Reading.hasValue option = true)
      (hsettled : r.settled = .ok values) :
      Taken scope r (longWord name) ⟨values, r.places, some ⟨option, none⟩, r.literal⟩
  | assigned {name : String} {option : Argument} {value : Bytes} {values values' : Values}
      (hoption : (name, option) ∈ scope.options) (hvalue : Reading.hasValue option = true)
      (hsettled : r.settled = .ok values) (hset : values.set option value = .ok values') :
      Taken scope r (assignedWord name value) ⟨values', r.places, none, r.literal⟩

namespace Reading

theorem take_of_isValue (hliteral : r.literal = false) (hword : IsValue scope word)
    (hroom : r.isWaiting = true ∨ r.places ≠ []) : r.take scope word = r.takeValue scope word := by
  unfold take
  rw [if_neg (by simp [hliteral])]
  cases hword with
  | empty => rfl
  | plain h => exact if_pos (.inl h)
  | minus => exact if_pos (.inr rfl)
  | number hscope h =>
    obtain ⟨first, rest, hencode, hlow, hhigh⟩ := exists_encode_number h
    have hfirst : first ≠ minus := by
      rintro rfl
      simp [minus] at hlow
    have hsplit := Utf8.splitText_eq_iff.mpr hencode.symm
    have hroom' : (r.isWaiting || !r.places.isEmpty) = true := by simpa using hroom
    simp only [hencode, hsplit, hscope, h, hroom']
    simp [hfirst]

theorem take_dashes (hliteral : r.literal = false) :
    r.take scope dashes = .ok { r with literal := true } := by
  unfold take
  rw [if_neg (by simp [hliteral])]
  rfl

theorem take_longWord {entry : String × Argument} (hliteral : r.literal = false)
    (hentry : entry ∈ scope.options) :
    r.take scope (longWord entry.1) = r.takeLong scope (Utf8.ofString entry.1) none := by
  obtain ⟨hequals, hne⟩ := ofString_name hentry
  have hbody : ∀ b ∈ Utf8.ofString entry.1, (b != equals) = true := by
    intro b hb
    simpa using ne_of_mem_of_not_mem hb hequals
  unfold take
  rw [if_neg (by simp [hliteral])]
  simp only [longWord, List.drop_one, List.tail_cons]
  rw [List.takeWhile_eq_self_iff.mpr hbody, List.dropWhile_eq_nil_iff.mpr hbody]
  simp [hne]

theorem take_assignedWord {entry : String × Argument} (hliteral : r.literal = false)
    (hentry : entry ∈ scope.options) :
    r.take scope (assignedWord entry.1 value) =
      r.takeLong scope (Utf8.ofString entry.1) (some value) := by
  obtain ⟨hequals, hne⟩ := ofString_name hentry
  have hbody : ∀ b ∈ Utf8.ofString entry.1, (b != equals) = true := by
    intro b hb
    simpa using ne_of_mem_of_not_mem hb hequals
  unfold take
  rw [if_neg (by simp [hliteral])]
  simp only [assignedWord, List.drop_one, List.tail_cons, List.takeWhile_append_of_pos hbody,
    List.dropWhile_append_of_pos hbody]
  simp [hne]

theorem take_shortVerbose (hliteral : r.literal = false) :
    r.take scope shortVerbose = r.takeShort scope ['v'] := by
  have hsplit : Utf8.splitText [0x76] = (['v'], []) := by decide +kernel
  have hnumber : isNumber ['v'] = false := by decide
  unfold take
  rw [if_neg (by simp [hliteral])]
  simp only [shortVerbose, hsplit, hnumber]
  simp [minus]

theorem takeValue_of_waiting (h : r.pending = some ⟨option, none⟩) :
    r.takeValue scope word = .ok { r with pending := some ⟨option, some word⟩ } := by
  rw [takeValue, h]

theorem takeValue_of_settled (h : r.settled = .ok values) :
    r.takeValue scope word = r.takePlace scope word := by
  rw [takeValue]
  split
  · next option hpending => simp [settled, hpending] at h
  · rfl

theorem taken_of_takeValue (hword : IsValue scope word) (h : r.takeValue scope word = .ok r') :
    Taken scope r word r' := by
  rw [takeValue] at h
  split at h
  · next option hpending =>
    obtain rfl := Except.ok.inj h
    exact .value hpending hword
  · obtain ⟨place, places, values, hplaces, hsettled, rfl⟩ := takePlace_eq_ok_iff.mp h
    exact .place hword hplaces hsettled

theorem taken_of_takeLong_none {body : Bytes} (h : r.takeLong scope body none = .ok r') :
    Taken scope r (minus :: minus :: body) r' := by
  obtain ⟨⟨name, option⟩, hentry, rfl⟩ := exists_of_takeLong h
  obtain ⟨values, hsettled, ⟨hvalue, rfl⟩ | ⟨hname, hverbose, rfl⟩⟩ :=
    (takeLong_none_eq_ok_iff hentry).mp h
  · exact .option hentry hvalue hsettled
  · obtain ⟨rfl, rfl⟩ := Prod.mk.inj hname
    exact .verbose (.inr rfl) hsettled hverbose

theorem taken_of_takeLong_some {body : Bytes} (h : r.takeLong scope body (some value) = .ok r') :
    Taken scope r (minus :: minus :: (body ++ equals :: value)) r' := by
  obtain ⟨⟨name, option⟩, hentry, rfl⟩ := exists_of_takeLong h
  obtain ⟨values, values', hvalue, hsettled, hset, rfl⟩ := (takeLong_some_eq_ok_iff hentry).mp h
  exact .assigned hentry hvalue hsettled hset

theorem taken_of_takeShort {rest : Bytes} {letters : List Char} (hrest : rest ≠ [])
    (hletters : rest = Utf8.encode letters) (h : r.takeShort scope letters = .ok r') :
    Taken scope r (minus :: rest) r' := by
  have hne : letters ≠ [] := by
    rintro rfl
    exact hrest hletters
  obtain ⟨rfl, values, hsettled, hverbose, rfl⟩ := (takeShort_eq_ok_iff hne).mp h
  obtain rfl : rest = [0x76] := hletters
  exact .verbose (.inl rfl) hsettled hverbose

theorem taken_of_long {body : Bytes}
    (h : (match body.dropWhile (· != equals) with
      | [] => r.takeLong scope (body.takeWhile (· != equals)) none
      | _ :: value => r.takeLong scope (body.takeWhile (· != equals)) (some value)) = .ok r') :
    Taken scope r (minus :: minus :: body) r' := by
  have hbody := List.takeWhile_append_dropWhile (p := (· != equals)) (l := body)
  split at h
  · next hbehind =>
    rw [hbehind, List.append_nil] at hbody
    rw [hbody] at h
    exact taken_of_takeLong_none h
  · next mark value hbehind =>
    have hmark := List.head?_dropWhile_not (· != equals) body
    obtain rfl : mark = equals := by simpa [hbehind] using hmark
    rw [hbehind] at hbody
    rw [← hbody]
    exact taken_of_takeLong_some h

theorem taken_of_short {rest : Bytes} (hrest : rest ≠ [])
    (h : (let (letters, malformed) := Utf8.splitText rest
      if scope.takesNegativeNumbers && (r.isWaiting || !r.places.isEmpty)
          && malformed.isEmpty && isNumber letters then r.takeValue scope (minus :: rest)
      else do
        let taken ← r.takeShort scope letters
        if malformed.isEmpty then return taken
        else refuse (.unexpectedArgument ("-" ++ Utf8.lossy malformed))) = .ok r') :
    Taken scope r (minus :: rest) r' := by
  obtain ⟨letters, malformed, hsplit⟩ :
      ∃ letters malformed, Utf8.splitText rest = (letters, malformed) := ⟨_, _, rfl⟩
  simp only [hsplit] at h
  cases malformed with
  | nil =>
    obtain rfl := Utf8.splitText_eq_iff.mp hsplit
    split at h
    · next hnumber =>
      simp only [Bool.and_eq_true] at hnumber
      obtain ⟨⟨⟨hscope, -⟩, -⟩, hnumber⟩ := hnumber
      exact taken_of_takeValue (.number hscope hnumber) h
    · exact taken_of_takeShort hrest rfl (by simpa using h)
  | cons byte malformed =>
    cases hshort : r.takeShort scope letters <;>
      simp [hshort, refuse, bind, Except.bind] at h

/-- Every argument has one of the shapes of a `Taken`, or is refused. -/
theorem taken_of_take (hliteral : r.literal = false) (h : r.take scope word = .ok r') :
    Taken scope r word r' := by
  unfold take at h
  rw [if_neg (by simp [hliteral])] at h
  cases word with
  | nil => exact taken_of_takeValue .empty h
  | cons first rest =>
    dsimp only at h
    by_cases hplain : first ≠ minus ∨ rest.isEmpty
    · rw [if_pos hplain] at h
      refine taken_of_takeValue ?_ h
      by_cases hfirst : first = minus
      · obtain rfl := hfirst
        obtain rfl : rest = [] := by simpa using hplain
        exact .minus
      · exact .plain hfirst
    rw [if_neg hplain] at h
    obtain ⟨rfl, hrest⟩ : first = minus ∧ rest ≠ [] := by simpa using hplain
    by_cases hdashes : rest = [minus]
    · rw [if_pos hdashes] at h
      obtain rfl := hdashes
      obtain rfl := Except.ok.inj h
      exact .literal
    rw [if_neg hdashes] at h
    by_cases hlong : rest.head? = some minus
    · rw [if_pos hlong] at h
      obtain ⟨body, rfl⟩ := List.head?_eq_some_iff.mp hlong
      exact taken_of_long h
    · rw [if_neg hlong] at h
      exact taken_of_short hrest h

/-- **One argument.**  A reading that has not come to the two dashes takes an argument exactly as
`Taken` says. -/
theorem take_eq_ok_iff (hliteral : r.literal = false) :
    r.take scope word = .ok r' ↔ Taken scope r word r' := by
  refine ⟨taken_of_take hliteral, fun h => ?_⟩
  cases h with
  | value hpending hword =>
    have hwaiting : r.isWaiting = true := by simp [isWaiting, hpending]
    rw [take_of_isValue hliteral hword (.inl hwaiting), takeValue_of_waiting hpending]
  | place hword hplaces hsettled =>
    rw [take_of_isValue hliteral hword (.inr (by simp [hplaces])), takeValue_of_settled hsettled,
      takePlace_eq_ok_iff]
    exact ⟨_, _, _, hplaces, hsettled, rfl⟩
  | literal => exact take_dashes hliteral
  | verbose hword hsettled hverbose =>
    rcases hword with rfl | rfl
    · rw [take_shortVerbose hliteral, takeShort_eq_ok_iff (List.cons_ne_nil _ _)]
      exact ⟨rfl, _, hsettled, hverbose, rfl⟩
    · rw [take_longWord hliteral verbose_mem_options, takeLong_none_eq_ok_iff verbose_mem_options]
      exact ⟨_, hsettled, .inr ⟨rfl, hverbose, rfl⟩⟩
  | option hentry hvalue hsettled =>
    rw [take_longWord hliteral hentry, takeLong_none_eq_ok_iff hentry]
    exact ⟨_, hsettled, .inl ⟨hvalue, rfl⟩⟩
  | assigned hentry hvalue hsettled hset =>
    rw [take_assignedWord hliteral hentry, takeLong_some_eq_ok_iff hentry]
    exact ⟨_, _, hvalue, hsettled, hset, rfl⟩

end Reading

end CommandLine

end CoverageGate
