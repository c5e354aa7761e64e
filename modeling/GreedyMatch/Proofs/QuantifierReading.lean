import Mathlib.Data.List.DropRight
import GreedyMatch.Proofs.QuantifierGrammar

set_option autoImplicit false

namespace GreedyMatch

namespace Text

theorem trimStart_append {blanks rest : List Char} (hblanks : ∀ c ∈ blanks, isBlank c = true)
    (hfirst : ∀ c, rest.head? = some c → isBlank c = false) : trimStart (blanks ++ rest) = rest := by
  rw [trimStart, List.dropWhile_append_of_pos hblanks]
  cases rest with
  | nil => rfl
  | cons c rest => rw [List.dropWhile_cons_of_neg (by simp [hfirst c rfl])]

theorem trimEnd_append {blanks rest : List Char} (hblanks : ∀ c ∈ blanks, isBlank c = true)
    (hlast : ∀ c, rest.getLast? = some c → isBlank c = false) : trimEnd (rest ++ blanks) = rest := by
  rw [trimEnd, List.reverse_append, trimStart_append, List.reverse_reverse]
  · exact fun c hmem => hblanks c (List.mem_reverse.mp hmem)
  · rw [List.head?_reverse]
    exact hlast

theorem isBlank_of_head?_trimStart {text : List Char} {c : Char}
    (h : (trimStart text).head? = some c) : isBlank c = false := by
  have hfirst := List.head?_dropWhile_not isBlank text
  rw [trimStart] at h
  rw [h] at hfirst
  exact hfirst

theorem exists_append_trimEnd (text : List Char) :
    ∃ blanks, text = trimEnd text ++ blanks ∧ ∀ c ∈ blanks, isBlank c = true := by
  refine ⟨text.rtakeWhile isBlank, List.rdropWhile_append_rtakeWhile.symm, fun c hmem => ?_⟩
  exact List.mem_takeWhile_imp (List.mem_reverse.mp hmem)

theorem trims_trim (text : List Char) : Trims text (trim text) := by
  obtain ⟨after, hsplit, hafter⟩ := exists_append_trimEnd (trimStart text)
  have htext : text = text.takeWhile isBlank ++ trim text ++ after := by
    rw [List.append_assoc, trim, ← hsplit]
    exact List.takeWhile_append_dropWhile.symm
  have hfirst : ∀ c, (trim text).head? = some c → isBlank c = false := by
    intro c hhead
    obtain ⟨tail, htrim⟩ := List.head?_eq_some_iff.mp hhead
    have hstart : (trimStart text).head? = some c := by
      rw [hsplit, ← trim, htrim]
      rfl
    exact isBlank_of_head?_trimStart hstart
  have hlast : ∀ c, (trim text).getLast? = some c → isBlank c = false := by
    intro c hend
    rw [trim, trimEnd, List.getLast?_reverse] at hend
    exact isBlank_of_head?_trimStart hend
  exact .intro htext (fun _ => List.mem_takeWhile_imp) hafter hfirst hlast

theorem Trims.trim_eq {text trimmed : List Char} (h : Trims text trimmed) : trim text = trimmed := by
  obtain ⟨rfl, hbefore, hafter, hfirst, hlast⟩ := h
  rename_i before after
  cases trimmed with
  | nil =>
    -- Nothing stops the first trimming, which takes the blanks behind as well.
    have hblanks : ∀ c ∈ before ++ after, isBlank c = true := by
      intro c hmem
      exact (List.mem_append.mp hmem).elim (hbefore c) (hafter c)
    have hnone : trimStart (before ++ after ++ []) = [] :=
      trimStart_append hblanks (fun _ h => nomatch h)
    rw [List.append_nil] at hnone
    rw [List.append_nil, trim, hnone]
    rfl
  | cons c tail =>
    rw [trim, List.append_assoc, trimStart_append hbefore (by simpa using hfirst),
      trimEnd_append hafter hlast]

end Text

namespace Quantifier

theorem numeral_iff {digits : List Char} {value : Nat} :
    Numeral digits value ↔
      (∀ c ∈ digits, c.isDigit = true) ∧ Nat.ofDigitChars 10 digits 0 = value := by
  constructor
  · intro h
    induction h with
    | empty => exact ⟨(fun _ h => nomatch h), rfl⟩
    | @digit digits value c hdigits hc ih =>
      rw [List.forall_mem_append, List.forall_mem_singleton, Nat.ofDigitChars_append, ih.2]
      exact ⟨⟨ih.1, hc⟩, rfl⟩
  · rintro ⟨hdigits, rfl⟩
    induction digits using List.reverseRecOn with
    | nil => exact .empty
    | append_singleton digits c ih =>
      rw [List.forall_mem_append, List.forall_mem_singleton] at hdigits
      rw [Nat.ofDigitChars_append]
      exact .digit (ih hdigits.1) hdigits.2

theorem Numeral.find?_append {digits : List Char} {value : Nat} (h : Numeral digits value)
    (rest : List Char) : (digits ++ rest).find? (!·.isDigit) = rest.find? (!·.isDigit) := by
  rw [List.find?_append, List.find?_eq_none.mpr, Option.none_or]
  intro c hmem
  simp [(numeral_iff.mp h).1 c hmem]

theorem readCount_of_trim {field : List Char} (h : Text.trim field ≠ []) :
    readCount field =
      match (Text.trim field).find? (!·.isDigit) with
      | some c => .error (.unexpected c)
      | none => do return some (← ofDigits (Text.trim field)) := by
  rw [readCount]
  split
  · rename_i hnone
    exact absurd hnone h
  · rfl

theorem Numeral.readCount_eq {field digits : List Char} {value : Nat}
    (hdigits : Numeral digits value) (htrims : Text.Trims field digits) (hnonempty : digits ≠ []) :
    readCount field = if value < countLimit then .ok (some value) else .error .invalidNumber := by
  rw [← htrims.trim_eq] at hnonempty
  have hfind := hdigits.find?_append []
  rw [List.append_nil] at hfind
  obtain ⟨-, rfl⟩ := numeral_iff.mp hdigits
  rw [readCount_of_trim hnonempty, htrims.trim_eq, hfind]
  simp only [List.find?_nil, ofDigits]
  split <;> rfl

theorem fieldMeans_readCount (field : List Char) : FieldMeans field (readCount field) := by
  have htrims := Text.trims_trim field
  by_cases hblank : Text.trim field = []
  · rw [hblank] at htrims
    rw [readCount, hblank]
    exact .blank htrims
  · cases hfind : (Text.trim field).find? (!·.isDigit) with
    | some c =>
      obtain ⟨hc, digits, rest, htrim, hdigits⟩ := List.find?_eq_some_iff_append.mp hfind
      have hnumeral : Numeral digits _ := numeral_iff.mpr ⟨by simpa using hdigits, rfl⟩
      rw [readCount_of_trim hblank, hfind]
      rw [htrim] at htrims
      exact .unexpected htrims hnumeral (by simpa using hc)
    | none =>
      have hdigits : ∀ c ∈ Text.trim field, c.isDigit = true := by
        simpa using List.find?_eq_none.mp hfind
      have hnumeral : Numeral (Text.trim field) _ := numeral_iff.mpr ⟨hdigits, rfl⟩
      rw [hnumeral.readCount_eq htrims hblank]
      split
      · rename_i hlimit
        exact .count htrims hnumeral hblank hlimit
      · rename_i hlimit
        exact .tooLarge htrims hnumeral (Nat.le_of_not_lt hlimit)

theorem FieldMeans.readCount_eq {field : List Char} {result : Except Error (Option Nat)}
    (h : FieldMeans field result) : readCount field = result := by
  cases h with
  | blank htrims => rw [readCount, htrims.trim_eq]
  | count htrims hdigits hnonempty hlimit =>
    rw [hdigits.readCount_eq htrims hnonempty, if_pos hlimit]
  | @tooLarge digits value htrims hdigits hlimit =>
    have hnonempty : digits ≠ [] := by
      rintro rfl
      obtain ⟨-, rfl⟩ := numeral_iff.mp hdigits
      exact absurd hlimit (by decide)
    rw [hdigits.readCount_eq htrims hnonempty, if_neg (Nat.not_lt.mpr hlimit)]
  | @unexpected digits value c rest htrims hdigits hc =>
    have hnonempty : Text.trim field ≠ [] := by
      rw [htrims.trim_eq]
      exact List.append_ne_nil_of_right_ne_nil digits (List.cons_ne_nil c rest)
    rw [readCount_of_trim hnonempty, htrims.trim_eq, hdigits.find?_append,
      List.find?_cons_of_pos (by simp [hc])]

theorem SplitsAtComma.fields_eq {text first : List Char} {second? : Option (List Char)}
    (h : SplitsAtComma text first second?) : fields text = (first, second?) := by
  have hbefore {first : List Char} (hcomma : ',' ∉ first) : ∀ c ∈ first, (c != ',') = true := by
    intro c hmem
    exact bne_iff_ne.mpr fun heq => hcomma (heq ▸ hmem)
  cases h with
  | alone hcomma => rw [fields, List.dropWhile_eq_nil_iff.mpr (hbefore hcomma)]
  | @pair first second hcomma =>
    have hdrop : (',' :: second).dropWhile (· != ',') = ',' :: second := rfl
    have htake : (',' :: second).takeWhile (· != ',') = [] := rfl
    rw [fields, List.dropWhile_append_of_pos (hbefore hcomma), hdrop,
      List.takeWhile_append_of_pos (hbefore hcomma), htake, List.append_nil]

theorem splitsAtComma_fields (text : List Char) :
    SplitsAtComma text (fields text).1 (fields text).2 := by
  by_cases hmem : ',' ∈ text
  · obtain ⟨first, second, rfl, hcomma⟩ := List.eq_append_cons_of_mem hmem
    rw [(SplitsAtComma.pair hcomma).fields_eq]
    exact .pair hcomma
  · rw [(SplitsAtComma.alone hmem).fields_eq]
    exact .alone hmem

theorem readCounts_alone {text first : List Char} (h : SplitsAtComma text first none) :
    readCounts text = (do ofFields (← readCount first) none) := by
  rw [readCounts, h.fields_eq]

theorem readCounts_pair {text first second : List Char}
    (h : SplitsAtComma text first (some second)) :
    readCounts text = (do
      let min ← readCount first
      let max ← readCount second
      ofFields min (some max)) := by
  rw [readCounts, h.fields_eq]

theorem countsMean_readCounts (text : List Char) : CountsMean text (readCounts text) := by
  have hsplits := splitsAtComma_fields text
  generalize (fields text).1 = first at hsplits
  have hfirst := fieldMeans_readCount first
  cases hsecond? : (fields text).2 with
  | none =>
    rw [hsecond?] at hsplits
    rw [readCounts_alone hsplits]
    generalize readCount first = found at hfirst ⊢
    rcases found with e | _ | min
    · exact .badFirst hsplits hfirst
    · exact .empty hsplits hfirst
    · exact .alone hsplits hfirst
  | some second =>
    have hsecond := fieldMeans_readCount second
    rw [hsecond?] at hsplits
    rw [readCounts_pair hsplits]
    generalize readCount first = found at hfirst ⊢
    generalize readCount second = next at hsecond ⊢
    rcases found with e | min?
    · exact .badFirst hsplits hfirst
    rcases next with e | max?
    · exact .badSecond hsplits hfirst hsecond
    rcases min? with _ | min <;> rcases max? with _ | max
    · exact .neither hsplits hfirst hsecond
    · exact .noLower hsplits hfirst hsecond
    · exact .noUpper hsplits hfirst hsecond
    · change CountsMean text (ofCounts min max)
      rw [ofCounts]
      split
      · rename_i hlt
        exact .inverted hsplits hfirst hsecond hlt
      · rename_i hle
        exact .ordered hsplits hfirst hsecond (Nat.le_of_not_lt hle)

theorem CountsMean.readCounts_eq {text : List Char} {result : Except Error Quantifier}
    (h : CountsMean text result) : readCounts text = result := by
  cases h with
  | @badFirst first second? e hsplits hfirst =>
    cases second? with
    | none =>
      rw [readCounts_alone hsplits, hfirst.readCount_eq]
      rfl
    | some second =>
      rw [readCounts_pair hsplits, hfirst.readCount_eq]
      rfl
  | empty hsplits hfirst | alone hsplits hfirst =>
    rw [readCounts_alone hsplits, hfirst.readCount_eq]
    rfl
  | badSecond hsplits hfirst hsecond | noUpper hsplits hfirst hsecond
  | noLower hsplits hfirst hsecond | neither hsplits hfirst hsecond =>
    rw [readCounts_pair hsplits, hfirst.readCount_eq, hsecond.readCount_eq]
    rfl
  | ordered hsplits hfirst hsecond hle =>
    rw [readCounts_pair hsplits, hfirst.readCount_eq, hsecond.readCount_eq]
    exact if_neg (Nat.not_lt.mpr hle)
  | inverted hsplits hfirst hsecond hlt =>
    rw [readCounts_pair hsplits, hfirst.readCount_eq, hsecond.readCount_eq]
    exact if_pos hlt

theorem unwrap_open {opening closing : Char} (h : Brackets opening closing) (rest : List Char) :
    unwrap (opening :: rest) = before closing rest := by
  cases h <;> rfl

theorem unwrap_bare {text : List Char}
    (h : ∀ opening closing, Brackets opening closing → text.head? ≠ some opening) :
    unwrap text = .ok text := by
  unfold unwrap
  split
  · exact absurd rfl (h _ _ .square)
  · exact absurd rfl (h _ _ .curly)
  · rfl

theorem before_concat (closing : Char) (body : List Char) :
    before closing (body ++ [closing]) = .ok body := by
  rw [before, if_pos (by simp), List.dropLast_concat]

theorem before_of_open {closing : Char} {rest : List Char}
    (h : ∀ body, rest ≠ body ++ [closing]) : before closing rest = .error .unclosed := by
  rw [before, if_neg]
  intro hlast
  obtain ⟨body, hbody⟩ := List.getLast?_eq_some_iff.mp hlast
  exact h body hbody

section

variable {text trimmed : List Char} (htrims : Text.Trims text trimmed)

include htrims

theorem readChars_of_not_sign (hsign : trimmed ≠ ['*'] ∧ trimmed ≠ ['+'] ∧ trimmed ≠ ['?']) :
    readChars text = (do readCounts (← unwrap trimmed)) := by
  rw [readChars, htrims.trim_eq]
  split
  · rfl
  · exact absurd rfl hsign.1
  · exact absurd rfl hsign.2.1
  · exact absurd rfl hsign.2.2
  · rfl

theorem readChars_open {opening closing : Char} {rest : List Char} (hpair : Brackets opening closing)
    (hopen : trimmed = opening :: rest) :
    readChars text = (do readCounts (← before closing rest)) := by
  subst hopen
  rw [readChars_of_not_sign htrims (by cases hpair <;> simp), unwrap_open hpair]

theorem means_readChars : Means trimmed (readChars text) := by
  by_cases hsign : trimmed ≠ ['*'] ∧ trimmed ≠ ['+'] ∧ trimmed ≠ ['?']
  · by_cases hopen : ∃ opening closing rest, Brackets opening closing ∧ trimmed = opening :: rest
    · obtain ⟨opening, closing, rest, hpair, htrimmed⟩ := hopen
      rw [readChars_open htrims hpair htrimmed, htrimmed]
      by_cases hclosed : ∃ body, rest = body ++ [closing]
      · obtain ⟨body, rfl⟩ := hclosed
        rw [before_concat]
        exact .wrapped hpair (countsMean_readCounts body)
      · have hopen : ∀ body, rest ≠ body ++ [closing] := fun body hbody => hclosed ⟨body, hbody⟩
        rw [before_of_open hopen]
        exact .unclosed hpair hopen
    · have hbare : ∀ opening closing, Brackets opening closing → trimmed.head? ≠ some opening := by
        intro opening closing hpair hhead
        obtain ⟨rest, hrest⟩ := List.head?_eq_some_iff.mp hhead
        exact hopen ⟨opening, closing, rest, hpair, hrest⟩
      rw [readChars_of_not_sign htrims hsign, unwrap_bare hbare]
      exact .bare hsign hbare (countsMean_readCounts trimmed)
  · have hcases : trimmed = ['*'] ∨ trimmed = ['+'] ∨ trimmed = ['?'] := by
      simpa only [not_and_or, not_not] using hsign
    rcases hcases with rfl | rfl | rfl <;> rw [readChars, htrims.trim_eq]
    · exact .star
    · exact .plus
    · exact .mark

theorem Means.readChars_eq {result : Except Error Quantifier} (h : Means trimmed result) :
    readChars text = result := by
  cases h with
  | star | plus | mark =>
    rw [readChars, htrims.trim_eq]
    rfl
  | unclosed hpair hopen =>
    rw [readChars_open htrims hpair rfl, before_of_open hopen]
    rfl
  | wrapped hpair hcounts =>
    rw [readChars_open htrims hpair rfl, before_concat]
    exact hcounts.readCounts_eq
  | bare hsign hbare hcounts =>
    rw [readChars_of_not_sign htrims hsign, unwrap_bare hbare]
    exact hcounts.readCounts_eq

end

/-- A text is read as what it means: a quantifier, or else the error that it is refused with. -/
theorem read_eq_iff_means (text : String) (result : Except Error Quantifier) :
    read text = result ↔ ∃ trimmed, Text.Trims text.toList trimmed ∧ Means trimmed result := by
  constructor
  · rintro rfl
    have htrims := Text.trims_trim text.toList
    exact ⟨_, htrims, means_readChars htrims⟩
  · rintro ⟨trimmed, htrims, hmeans⟩
    exact hmeans.readChars_eq htrims

/-- Blanks may stand around the text, its brackets and its fields; of two bad fields the left one is
reported. -/
example : read " [ 007 , ]\n" = .ok (.atLeast 7) ∧
    read "\x7bx,99999999999999999999\x7d" = .error (.unexpected 'x') := by cbv

end Quantifier

end GreedyMatch
