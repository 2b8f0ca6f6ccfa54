import PipelineLint.Proofs.CommandLine.Pieces
import PipelineLint.Proofs.Text.Runs

/-!
# The ways to write a command line

The same arguments can be written in many ways: an option by its name or by its letter, its value
behind an equals sign, right behind the letter or in the next word, letters one by one or together,
and all of them in any order between the files. All ways are read alike.

What makes that so is that each word of an option, with the word behind it that is its value, says
the same pieces wherever it stands. A word of two dashes is the only one that changes what the words
behind it say: they are files, whatever they look like.

## What tells words apart

A word that begins with a dash is never a value of its own and, unless it is one dash and nothing
else, never a file before the two dashes. Such a value can still stand in the word of its option and
such a file behind the dashes, so that nothing is out of reach.

## Main definitions

* `CommandLine.IsNumeral` — a text that denotes a number
* `CommandLine.Cluster`, `CommandLine.Named` — what letters and full names say
* `CommandLine.Line` — what a command line says, piece by piece
* `CommandLine.Tells`, `CommandLine.Spells` — pieces and command lines that ask for certain
  arguments

## Main results

* `CommandLine.readTimeout_eq_ok_iff` — the numerals that are timeouts
* `CommandLine.Line.takes` — words are read as what they say
* `CommandLine.parse_eq_ok_iff` — what is made of a command line that is well written
* `CommandLine.parse_of_spells` — every spelling of arguments is read as them
* `CommandLine.exists_spells` — all arguments have a spelling
-/

namespace PipelineLint.CommandLine

open Text

/-! ## Numerals -/

/-- A text denotes a number: by digits of ASCII, of which the first ones may be zeros, and which a
plus may precede. -/
def IsNumeral (w : List Char) (n : Nat) : Prop :=
  ∃ digits, (w = digits ∨ w = '+' :: digits) ∧ digits ≠ [] ∧ digits.all Char.isDigit = true ∧
    Nat.ofDigits 10 (digits.reverse.map fun c => c.toNat - '0'.toNat) = n

theorem le_foldl_digits (n : Nat) (s : List Char) :
    n ≤ s.foldl (fun n c => 10 * n + (c.toNat - 0x30)) n := by
  induction s generalizing n with
  | nil => exact Nat.le_refl n
  | cons c s ih =>
    have hmore := ih (10 * n + (c.toNat - 0x30))
    rw [List.foldl_cons]
    omega

theorem readDigits_eq_ok_iff {n m : Nat} {s : List Char} (hn : n < UInt64.size) :
    readDigits n s = .ok m ↔ s.all Char.isDigit = true ∧
      s.foldl (fun n c => 10 * n + (c.toNat - 0x30)) n = m ∧ m < UInt64.size := by
  induction s generalizing n with
  | nil =>
    simp only [readDigits, Except.ok.injEq, List.all_nil, true_and, List.foldl_nil]
    exact ⟨fun h => ⟨h, h ▸ hn⟩, And.left⟩
  | cons c s ih =>
    simp only [readDigits, List.all_cons, Bool.and_eq_true, List.foldl_cons]
    by_cases hdigit : c.isDigit = true
    · by_cases hlarge : UInt64.size ≤ 10 * n + (c.toNat - 0x30)
      · have hle := le_foldl_digits (10 * n + (c.toNat - 0x30)) s
        rw [if_neg (by simp [hdigit]), if_pos hlarge]
        refine iff_of_false nofun ?_
        rintro ⟨-, rfl, hm⟩
        omega
      · rw [if_neg (by simp [hdigit]), if_neg hlarge, ih (by omega), hdigit]
        simp
    · rw [if_pos (by simp [hdigit])]
      exact iff_of_false nofun fun h => hdigit h.1.1

theorem map_readDigits_eq_ok_iff {n : UInt64} {s : List Char} :
    (readDigits 0 s).map .ofNat = .ok n ↔ s.all Char.isDigit = true ∧
      Nat.ofDigits 10 (s.reverse.map fun c => c.toNat - '0'.toNat) = n.toNat := by
  have hiff (m : Nat) := readDigits_eq_ok_iff (m := m) (s := s) (n := 0) (by decide)
  rw [← digitsValue_eq_ofDigits]
  constructor
  · intro h
    cases hread : readDigits 0 s with
    | error fault =>
      rw [hread] at h
      cases h
    | ok m =>
      obtain ⟨hall, hvalue, hm⟩ := (hiff m).mp hread
      rw [hread] at h
      obtain rfl : UInt64.ofNat m = n := Except.ok.inj h
      exact ⟨hall, hvalue.trans (UInt64.toNat_ofNat_of_lt' hm).symm⟩
  · rintro ⟨hall, hvalue⟩
    rw [(hiff n.toNat).mpr ⟨hall, hvalue, n.toNat_lt⟩]
    exact congrArg Except.ok UInt64.ofNat_toNat

/-- **The numerals that are timeouts.** None of them denotes a number of more than 64 bits. -/
theorem readTimeout_eq_ok_iff {w : List Char} {n : UInt64} :
    readTimeout w = .ok n ↔ IsNumeral w n.toNat := by
  have hplus {s : List Char} : ¬ ('+' :: s).all Char.isDigit = true := by
    simp [Char.isDigit]
  rw [readTimeout.eq_def]
  split
  next =>
    refine iff_of_false nofun ?_
    rintro ⟨digits, rfl | h, hne, -⟩
    · exact hne rfl
    · cases h
  next c s =>
    rw [map_readDigits_eq_ok_iff]
    constructor
    · rintro ⟨hall, hvalue⟩
      exact ⟨c :: s, .inr rfl, by simp, hall, hvalue⟩
    · rintro ⟨digits, rfl | h, -, hall, hvalue⟩
      · exact absurd hall hplus
      · cases h
        exact ⟨hall, hvalue⟩
  next hempty hmore =>
    rw [map_readDigits_eq_ok_iff]
    constructor
    · rintro ⟨hall, hvalue⟩
      exact ⟨w, .inl rfl, hempty, hall, hvalue⟩
    · rintro ⟨digits, rfl | rfl, hne, hall, hvalue⟩
      · exact ⟨hall, hvalue⟩
      · cases digits with
        | nil => exact absurd rfl hne
        | cons c s => exact absurd rfl (hmore c s)

/-! ## Names of options -/

/-- The letter of an option. -/
def Switch.letter : Switch → Char
  | .setting .config => 'c'
  | .setting .profile => 'p'
  | .setting .timeout => 't'
  | .flag .insecure => 'k'
  | .flag .debug => 'd'
  | .flag .help => 'h'
  | .flag .version => 'V'

/-- The full name of an option, without its dashes. -/
def Switch.word : Switch → List Char
  | .setting .config => "config".toList
  | .setting .profile => "profile".toList
  | .setting .timeout => "timeout".toList
  | .flag .insecure => "insecure".toList
  | .flag .debug => "debug".toList
  | .flag .help => "help".toList
  | .flag .version => "version".toList

theorem ofLetter?_letter (o : Switch) : Switch.ofLetter? o.letter = some o := by
  cases o with
  | flag f => cases f <;> rfl
  | setting s => cases s <;> rfl

theorem ofName?_word (o : Switch) : Switch.ofName? o.word = some o := by
  cases o with
  | flag f => cases f <;> rfl
  | setting s => cases s <;> rfl

theorem notMem_word (o : Switch) : '=' ∉ o.word := by
  cases o with
  | flag f => cases f <;> decide
  | setting s => cases s <;> decide

/-! ## What words say -/

/-- A word that can be told from an option. -/
def IsOperand (word : List Char) : Prop := word.head? ≠ some '-'

instance (word : List Char) : Decidable (IsOperand word) :=
  inferInstanceAs (Decidable (word.head? ≠ some '-'))

/-- What the letters behind a dash say, with the words behind them that belong to the last one. -/
inductive Cluster : List Char → List (List Char) → List Piece → Prop
  | flag (f : Flag) : Cluster [Switch.letter (.flag f)] [] [.flag f]
  | more (f : Flag) {s next ps} (h : Cluster s next ps) :
      Cluster (Switch.letter (.flag f) :: s) next (.flag f :: ps)
  | equals (o : Setting) (value : List Char) :
      Cluster (Switch.letter (.setting o) :: '=' :: value) [] [.setting o value]
  | attached (o : Setting) {c : Char} (value : List Char) (hc : c ≠ '=') :
      Cluster (Switch.letter (.setting o) :: c :: value) [] [.setting o (c :: value)]
  | separate (o : Setting) {value : List Char} (hvalue : IsOperand value) :
      Cluster [Switch.letter (.setting o)] [value] [.setting o value]

/-- What a full name behind two dashes says, with the words behind it that belong to it. -/
inductive Named : List Char → List (List Char) → List Piece → Prop
  | flag (f : Flag) : Named (Switch.word (.flag f)) [] [.flag f]
  | equals (o : Setting) (value : List Char) :
      Named (Switch.word (.setting o) ++ '=' :: value) [] [.setting o value]
  | separate (o : Setting) {value : List Char} (hvalue : IsOperand value) :
      Named (Switch.word (.setting o)) [value] [.setting o value]

/-- What a command line says. -/
inductive Line : List (List Char) → List Piece → Prop
  | nil : Line [] []
  | letters {s next ps ws qs} (h : Cluster s next ps) (hmore : Line ws qs) :
      Line (('-' :: s) :: (next ++ ws)) (ps ++ qs)
  | named {s next ps ws qs} (h : Named s next ps) (hmore : Line ws qs) :
      Line (('-' :: '-' :: s) :: (next ++ ws)) (ps ++ qs)
  | file {name ws qs} (hname : IsOperand name ∨ name = ['-']) (hmore : Line ws qs) :
      Line (name :: ws) (.file name :: qs)
  | files (names : List (List Char)) : Line (['-', '-'] :: names) (names.map .file)

/-! ## Words are read as what they say -/

namespace Draft

variable (d : Draft)

theorem letters_flag (f : Flag) (s : List Char) :
    d.letters (Switch.letter (.flag f) :: s) = d.flag f >>= (·.letters s) := by
  rw [letters, ofLetter?_letter]

theorem letters_equals (o : Setting) (value : List Char) :
    d.letters (Switch.letter (.setting o) :: '=' :: value) = d.setting o (some value) := by
  rw [letters, ofLetter?_letter]
  rfl

theorem letters_attached (o : Setting) {c : Char} (hc : c ≠ '=') (value : List Char) :
    d.letters (Switch.letter (.setting o) :: c :: value) = d.setting o (some (c :: value)) := by
  simp only [letters, ofLetter?_letter]
  split
  next heq => cases heq
  next heq => exact absurd (List.cons.inj heq).1 hc
  next => rfl

theorem letters_separate (o : Setting) :
    d.letters [Switch.letter (.setting o)] = d.setting o none := by
  rw [letters, ofLetter?_letter]

theorem named_flag (f : Flag) : d.named (Switch.word (.flag f)) = d.flag f := by
  cases f <;> rfl

theorem named_equals (o : Setting) (value : List Char) :
    d.named (Switch.word (.setting o) ++ '=' :: value) = d.setting o (some value) := by
  have hword := notMem_word (.setting o)
  have hcontains : (Switch.word (.setting o) ++ '=' :: value).contains '=' = true := by simp
  rw [named, takeWhile_ne_append hword, dropWhile_ne_append hword, ofName?_word, if_pos hcontains]
  rfl

theorem named_separate (o : Setting) :
    d.named (Switch.word (.setting o)) = d.setting o none := by
  cases o <;> rfl

theorem words_letters {c : Char} (hc : c ≠ '-') (s : List Char) (ws : List (List Char)) :
    d.words (('-' :: c :: s) :: ws) = d.letters (c :: s) >>= (·.words ws) := by
  rw [words]
  · exact fun h _ => hc h
  · exact hc

theorem words_named {s : List Char} (hs : s ≠ []) (ws : List (List Char)) :
    d.words (('-' :: '-' :: s) :: ws) = d.named s >>= (·.words ws) := by
  rw [words]
  exact hs

theorem words_operand {word : List Char} (h : IsOperand word ∨ word = ['-'])
    (ws : List (List Char)) : d.words (word :: ws) = d.operand word >>= (·.words ws) := by
  have hne (c : Char) (s : List Char) : word ≠ '-' :: c :: s := by
    rintro rfl
    simp [IsOperand] at h
  rw [words]
  · exact hne '-' []
  · exact fun s => hne '-' s
  · exact hne

/-- Words that belong to an option are read one by one. -/
theorem words_append {next : List (List Char)} (h : ∀ w ∈ next, IsOperand w)
    (ws : List (List Char)) :
    d.words (next ++ ws) = next.foldlM operand d >>= (·.words ws) := by
  induction next generalizing d with
  | nil => rfl
  | cons w next ih =>
    obtain ⟨hw, hnext⟩ := List.forall_mem_cons.mp h
    rw [List.cons_append, words_operand d (.inl hw), List.foldlM_cons, bind_assoc]
    exact congrArg _ (funext fun d => ih d hnext)

end Draft

theorem Takes.congr {read read' : Draft → Except UsageError Draft} {ps : List Piece}
    (h : Takes read ps) (heq : ∀ d, read' d = read d) : Takes read' ps :=
  (funext heq : read' = read) ▸ h

section

variable {s : List Char} {next : List (List Char)} {ps : List Piece}

theorem Cluster.exists_eq_cons (h : Cluster s next ps) : ∃ c t, s = c :: t ∧ c ≠ '-' := by
  have hletter (o : Switch) : o.letter ≠ '-' := by
    cases o with
    | flag f => cases f <;> decide
    | setting s => cases s <;> decide
  cases h with
  | flag f => exact ⟨_, _, rfl, hletter _⟩
  | more f => exact ⟨_, _, rfl, hletter _⟩
  | equals o value => exact ⟨_, _, rfl, hletter _⟩
  | attached o value => exact ⟨_, _, rfl, hletter _⟩
  | separate o hvalue => exact ⟨_, _, rfl, hletter _⟩

theorem Cluster.isOperand (h : Cluster s next ps) : ∀ w ∈ next, IsOperand w := by
  induction h with
  | more f h ih => exact ih
  | separate o hvalue => simpa using hvalue
  | _ => simp

/-- **Letters are read as what they say.** -/
theorem Cluster.takes (h : Cluster s next ps) :
    Takes (fun d => d.letters s >>= (next.foldlM Draft.operand ·)) ps := by
  induction h with
  | flag f =>
    refine ((takes_flag f).bind takes_nil).congr fun d => ?_
    rw [Draft.letters_flag, bind_assoc]
    rfl
  | more f h ih =>
    refine ((takes_flag f).bind ih).congr fun d => ?_
    rw [Draft.letters_flag, bind_assoc]
  | equals o value =>
    refine ((takes_value o value).bind takes_nil).congr fun d => ?_
    rw [Draft.letters_equals]
    rfl
  | attached o value hc =>
    refine ((takes_value o _).bind takes_nil).congr fun d => ?_
    rw [Draft.letters_attached d o hc]
    rfl
  | separate o hvalue =>
    refine (takes_separate o _).congr fun d => ?_
    rw [Draft.letters_separate]
    simp only [List.foldlM_cons, List.foldlM_nil, bind_pure]

theorem Named.ne_nil (h : Named s next ps) : s ≠ [] := by
  cases h with
  | flag f => cases f <;> decide
  | equals o value => simp
  | separate o hvalue => cases o <;> decide

theorem Named.isOperand (h : Named s next ps) : ∀ w ∈ next, IsOperand w := by
  cases h with
  | separate o hvalue => simpa using hvalue
  | _ => simp

/-- **A full name is read as what it says.** -/
theorem Named.takes (h : Named s next ps) :
    Takes (fun d => d.named s >>= (next.foldlM Draft.operand ·)) ps := by
  cases h with
  | flag f =>
    refine ((takes_flag f).bind takes_nil).congr fun d => ?_
    rw [Draft.named_flag]
    rfl
  | equals o value =>
    refine ((takes_value o value).bind takes_nil).congr fun d => ?_
    rw [Draft.named_equals]
    rfl
  | separate o hvalue =>
    refine (takes_separate o _).congr fun d => ?_
    rw [Draft.named_separate]
    simp only [List.foldlM_cons, List.foldlM_nil, bind_pure]

end

theorem takes_allFiles (names : List (List Char)) : Takes (·.allFiles names) (names.map .file) := by
  induction names with
  | nil => exact takes_nil
  | cons name names ih => exact (takes_file name).bind ih

/-- **Words are read as what they say.** -/
theorem Line.takes {ws : List (List Char)} {ps : List Piece} (h : Line ws ps) :
    Takes (·.words ws) ps := by
  induction h with
  | nil => exact takes_nil
  | letters h hmore ih =>
    obtain ⟨c, t, rfl, hc⟩ := h.exists_eq_cons
    refine (h.takes.bind ih).congr fun d => ?_
    simp only [Draft.words_letters d hc, Draft.words_append _ h.isOperand, bind_assoc]
  | named h hmore ih =>
    refine (h.takes.bind ih).congr fun d => ?_
    simp only [Draft.words_named d h.ne_nil, Draft.words_append _ h.isOperand, bind_assoc]
  | file hname hmore ih => exact ((takes_operand _).bind ih).congr fun d => d.words_operand hname _
  | files names => exact takes_allFiles names

/-! ## Arguments -/

/-- Arguments that a command line can ask for. -/
structure Arguments.IsValid (a : Arguments) : Prop where
  config : a.config ≠ some ""
  files : a.files ≠ [] ∧ "" ∉ a.files

/-- Pieces ask for certain arguments. What differs from the default is given once, in any order, and
files are given in their own order. Help and the version are not asked for. -/
structure Tells (ps : List Piece) (a : Arguments) : Prop where
  config : (valuesOf .config ps).map String.ofList = a.config.toList
  profile : valuesOf .profile ps = [] ∧ a.profile = "default" ∨
    valuesOf .profile ps = [a.profile.toList]
  timeout : valuesOf .timeout ps = [] ∧ a.timeout = 30 ∨
    ∃ numeral, valuesOf .timeout ps = [numeral] ∧ IsNumeral numeral a.timeout.toNat
  insecure : ps.count (.flag .insecure) = a.insecure.toNat
  debug : ps.count (.flag .debug) = a.debug.toNat
  files : (filesOf ps).map String.ofList = a.files
  noRequest : .flag .help ∉ ps ∧ .flag .version ∉ ps

/-- A command line is a spelling of certain arguments. -/
def Spells (ws : List String) (a : Arguments) : Prop :=
  ∃ ps, Line (ws.map String.toList) ps ∧ Tells ps a

/-- The arguments of a draft in which nothing waits. -/
def Draft.arguments (d : Draft) : Arguments where
  config := d.config
  profile := d.profile.getD "default"
  insecure := d.insecure
  timeout := d.timeout.getD 30
  debug := d.debug
  files := d.files

/-- What a draft in which nothing waits comes to. -/
def Draft.conclude (d : Draft) : Except UsageError Arguments :=
  if d.files.isEmpty then .error .noFile else .ok d.arguments

variable {ws : List String} {ps : List Piece} {a : Arguments}

/-- A command line is read as its pieces are taken. -/
theorem parse_eq (h : Line (ws.map String.toList) ps) :
    parse ws = ps.foldlM Draft.take {} >>= Draft.conclude := by
  have hready : Draft.IsReady {} := Draft.isReady_of_none rfl
  calc parse ws = (Draft.words {} (ws.map String.toList) >>= Draft.settle) >>= Draft.conclude := by
        rw [bind_assoc]
        rfl
    _ = ps.foldlM Draft.take {} >>= Draft.conclude := by
        rw [h.takes.settle {} hready]
        rfl

theorem conclude_eq_ok_iff {d : Draft} :
    d.conclude = .ok a ↔ d.files ≠ [] ∧ d.arguments = a := by
  rw [Draft.conclude]
  by_cases hfiles : d.files = []
  · simp [hfiles]
  · simp [hfiles]

theorem nil_mem_iff {vs : List (List Char)} : [] ∈ vs ↔ "" ∈ vs.map String.ofList := by
  simp [List.mem_map, String.ofList_eq_empty_iff]

/-- There is no value, or one. -/
theorem eq_nil_or_of_map_eq_toList {α β : Type} {f : α → β} {vs : List α} {o : Option β}
    (h : o.toList = vs.map f) : vs = [] ∧ o = none ∨ ∃ v, vs = [v] ∧ o = some (f v) := by
  cases o with
  | none => exact .inl ⟨List.map_eq_nil_iff.mp h.symm, rfl⟩
  | some b =>
    obtain ⟨v, hvalue, rfl⟩ := List.map_eq_singleton_iff.mp h.symm
    exact .inr ⟨v, hvalue, rfl⟩

section

variable {d : Draft}

/-- What pieces make the profile of a draft. -/
theorem Joins.profile_cases (h : Joins {} ps d) :
    valuesOf .profile ps = [] ∧ d.profile = none ∨
      ∃ p, valuesOf .profile ps = [p.toList] ∧ d.profile = some p := by
  rcases eq_nil_or_of_map_eq_toList h.profile with hnone | ⟨value, hvalue, hprofile⟩
  · exact .inl hnone
  · exact .inr ⟨_, by rw [hvalue, String.toList_ofList], hprofile⟩

/-- What pieces make the timeout of a draft. -/
theorem Joins.timeout_cases (h : Joins {} ps d) :
    valuesOf .timeout ps = [] ∧ d.timeout = none ∨
      ∃ numeral n, valuesOf .timeout ps = [numeral] ∧ d.timeout = some n ∧
        IsNumeral numeral n.toNat := by
  rcases eq_nil_or_of_map_eq_toList h.timeout with ⟨hnil, hnone⟩ | ⟨numeral, hvalue, htimeout⟩
  · exact .inl ⟨hnil, Option.map_eq_none_iff.mp hnone⟩
  · obtain ⟨n, hn, hread⟩ := Option.map_eq_some_iff.mp htimeout
    exact .inr ⟨numeral, n, hvalue, hn, readTimeout_eq_ok_iff.mp hread.symm⟩

/-- What is read off a draft that pieces lead to is what they tell. -/
theorem Joins.tells (h : Joins {} ps d) : Tells ps d.arguments := by
  refine ⟨h.config.symm, ?_, ?_, ?_, ?_, h.files.symm, h.noRequest⟩
  · rcases h.profile_cases with ⟨hnil, hnone⟩ | ⟨p, hvalue, hp⟩
    · exact .inl ⟨hnil, by rw [Draft.arguments, hnone]; rfl⟩
    · exact .inr (by rw [hvalue, Draft.arguments, hp]; rfl)
  · rcases h.timeout_cases with ⟨hnil, hnone⟩ | ⟨numeral, n, hvalue, hn, hnumeral⟩
    · exact .inl ⟨hnil, by rw [Draft.arguments, hnone]; rfl⟩
    · exact .inr ⟨numeral, hvalue, by rw [Draft.arguments, hn]; exact hnumeral⟩
  · simpa [Draft.arguments] using h.insecure.symm
  · simpa [Draft.arguments] using h.debug.symm

/-- No piece is taken that arguments may not have. -/
theorem Joins.isValid (h : Joins {} ps d) (hfiles : d.files ≠ []) : d.arguments.IsValid := by
  have hconfig : d.config.toList = (valuesOf .config ps).map String.ofList := h.config
  have hnames : d.files = (filesOf ps).map String.ofList := h.files
  refine ⟨fun hempty => ?_, hfiles, fun hempty => ?_⟩
  · have hmem : "" ∈ d.config.toList := Option.mem_toList.mpr hempty
    exact h.named.1 (nil_mem_iff.mpr (hconfig ▸ hmem))
  · exact h.named.2 (nil_mem_iff.mpr (hnames ▸ hempty))

end

/-- Pieces that tell arguments that can be asked for lead to a draft of them. -/
theorem Tells.joins (h : Tells ps a) (ha : a.IsValid) :
    ∃ d, Joins {} ps d ∧ d.conclude = .ok a := by
  obtain ⟨profile, hprofile, hprofile'⟩ : ∃ o : Option String,
      o.toList = (valuesOf .profile ps).map String.ofList ∧ o.getD "default" = a.profile := by
    rcases h.profile with ⟨hnil, hdefault⟩ | hvalue
    · exact ⟨none, by simp [hnil], hdefault.symm⟩
    · exact ⟨some a.profile, by simp [hvalue], rfl⟩
  obtain ⟨timeout, htimeout, htimeout'⟩ : ∃ o : Option UInt64,
      (o.map Except.ok).toList = (valuesOf .timeout ps).map readTimeout ∧
        o.getD 30 = a.timeout := by
    rcases h.timeout with ⟨hnil, hdefault⟩ | ⟨numeral, hvalue, hnumeral⟩
    · exact ⟨none, by simp [hnil], hdefault.symm⟩
    · have hread : readTimeout numeral = .ok a.timeout := readTimeout_eq_ok_iff.mpr hnumeral
      exact ⟨some a.timeout, by simp [hvalue, hread], rfl⟩
  refine ⟨⟨a.config, profile, timeout, a.insecure, a.debug, a.files, none⟩, ?_, ?_⟩
  · refine ⟨h.config.symm, hprofile, htimeout, ?_, ?_, h.files.symm, ⟨?_, ?_⟩, h.noRequest, rfl⟩
    · simpa using h.insecure.symm
    · simpa using h.debug.symm
    · rw [nil_mem_iff, h.config]
      simpa using ha.config
    · rw [nil_mem_iff, h.files]
      exact ha.files.2
  · refine conclude_eq_ok_iff.mpr ⟨ha.files.1, ?_⟩
    rw [Draft.arguments, hprofile', htimeout']

/-- **What is made of a command line that is well written.** -/
theorem parse_eq_ok_iff (h : Line (ws.map String.toList) ps) :
    parse ws = .ok a ↔ Tells ps a ∧ a.IsValid := by
  rw [parse_eq h, bind_eq_ok_iff]
  simp only [foldlM_take_eq_ok_iff]
  constructor
  · rintro ⟨d, hjoins, hd⟩
    obtain ⟨hfiles, rfl⟩ := conclude_eq_ok_iff.mp hd
    exact ⟨hjoins.tells, hjoins.isValid hfiles⟩
  · rintro ⟨htells, ha⟩
    exact htells.joins ha

/-- **Every spelling of arguments is read as them.** -/
theorem parse_of_spells (ha : a.IsValid) (h : Spells ws a) : parse ws = .ok a := by
  obtain ⟨ps, hline, htells⟩ := h
  exact (parse_eq_ok_iff hline).mpr ⟨htells, ha⟩

/-- A command line on which values and files look like options, with letters that stand together. -/
def crowded : List String :=
  ["a", "-dkt", "+007", "--profile", "", "-c=-x=y", "-", "--", "--help", "-k"]

theorem parse_crowded :
    let a : Arguments :=
      { config := some "-x=y", profile := "", insecure := true, timeout := 7, debug := true,
        files := ["a", "-", "--help", "-k"] }
    a.IsValid ∧ Spells crowded a ∧ parse crowded = .ok a := by
  intro a
  have hvalid : a.IsValid := ⟨by decide, by decide, by decide⟩
  have hnumeral : IsNumeral "+007".toList 7 := ⟨"007".toList, .inr rfl, by decide, rfl, rfl⟩
  have hline : Line (crowded.map String.toList)
      [.file ['a'], .flag .debug, .flag .insecure, .setting .timeout "+007".toList,
        .setting .profile [], .setting .config "-x=y".toList, .file ['-'],
        .file "--help".toList, .file "-k".toList] :=
    .file (.inl (by decide)) <|
      .letters (.more .debug (.more .insecure (.separate .timeout (by decide)))) <|
      .named (.separate .profile (by decide)) <|
      .letters (.equals .config "-x=y".toList) <|
      .file (.inr rfl) <|
      .files ["--help".toList, "-k".toList]
  have hspells : Spells crowded a :=
    ⟨_, hline, rfl, .inr rfl, .inr ⟨_, rfl, hnumeral⟩, rfl, rfl, rfl, by decide⟩
  exact ⟨hvalid, hspells, parse_of_spells hvalid hspells⟩

/-! ## Arguments can be written -/

theorem exists_isNumeral (n : Nat) : ∃ w, IsNumeral w n := by
  have hdigit : ∀ d < 10, (Nat.digitChar d).isDigit = true ∧
      (Nat.digitChar d).toNat - '0'.toNat = d := by decide
  have hmap : (Nat.digits 10 n).map ((fun c => c.toNat - '0'.toNat) ∘ Nat.digitChar) =
      Nat.digits 10 n := by
    refine (List.map_congr_left fun d hd => ?_).trans (List.map_id _)
    exact (hdigit d (Nat.digits_lt_base (by decide) hd)).2
  -- A zero in front keeps the numeral of zero from being empty.
  refine ⟨'0' :: (Nat.digits 10 n).reverse.map Nat.digitChar, _, .inl rfl, by simp, ?_, ?_⟩
  · rw [List.all_cons, List.all_map, List.all_reverse, Bool.and_eq_true, List.all_eq_true]
    exact ⟨rfl, fun d hd => (hdigit d (Nat.digits_lt_base (by decide) hd)).1⟩
  · have hzero : Nat.ofDigits 10 (['0'].map fun c => c.toNat - '0'.toNat) = 0 := rfl
    rw [List.reverse_cons, List.map_append, Nat.ofDigits_append, ← List.map_reverse,
      List.reverse_reverse, List.map_map, hmap, hzero, Nat.mul_zero, Nat.add_zero,
      Nat.ofDigits_digits]

/-- The options of arguments, each of them once, with a numeral of the timeout. -/
def Arguments.options (a : Arguments) (numeral : List Char) : List Piece :=
  (a.config.toList.map fun path => .setting .config path.toList) ++
    [.setting .profile a.profile.toList, .setting .timeout numeral] ++
    (if a.insecure then [.flag .insecure] else []) ++ (if a.debug then [.flag .debug] else [])

/-- Options, and then files, can be written. -/
theorem exists_line {options : List Piece} (h : filesOf options = []) (names : List (List Char)) :
    ∃ ws, Line ws (options ++ names.map .file) := by
  induction options with
  | nil => exact ⟨_, .files names⟩
  | cons p options ih =>
    cases p with
    | flag f =>
      obtain ⟨ws, hline⟩ := ih h
      have hmore := Line.named (.flag f) hline
      exact ⟨_, hmore⟩
    | setting o value =>
      obtain ⟨ws, hline⟩ := ih h
      have hmore := Line.named (.equals o value) hline
      exact ⟨_, hmore⟩
    | file name => cases h

section

variable (s : Setting) (f : Flag) (names : List (List Char))

theorem valuesOf_map_file : valuesOf s (names.map .file) = [] := by
  induction names with
  | nil => rfl
  | cons name names ih => exact ih

theorem filesOf_map_file : filesOf (names.map .file) = names := by
  induction names with
  | nil => rfl
  | cons name names ih => exact congrArg _ ih

theorem count_map_file : (names.map Piece.file).count (.flag f) = 0 := by
  rw [List.count_eq_zero]
  simp

end

theorem tells_options (a : Arguments) {numeral : List Char}
    (h : IsNumeral numeral a.timeout.toNat) :
    filesOf (a.options numeral) = [] ∧
      Tells (a.options numeral ++ (a.files.map String.toList).map .file) a := by
  obtain ⟨config, profile, insecure, timeout, debug, files⟩ := a
  have hfiles : (files.map String.toList).map String.ofList = files := by
    simp [Function.comp_def]
  generalize files.map String.toList = names at hfiles ⊢
  refine ⟨?_, ?_, .inr ?_, .inr ⟨numeral, ?_, h⟩, ?_, ?_, ?_, ?_⟩
  all_goals cases config <;> cases insecure <;> cases debug
  all_goals simp [Arguments.options, valuesOf_map_file, filesOf_map_file, count_map_file, hfiles]

/-- **All arguments can be written.** -/
theorem exists_spells (a : Arguments) : ∃ ws, Spells ws a := by
  obtain ⟨numeral, hnumeral⟩ := exists_isNumeral a.timeout.toNat
  obtain ⟨hnone, htells⟩ := tells_options a hnumeral
  obtain ⟨ws, hline⟩ := exists_line hnone (a.files.map String.toList)
  have hwords : (ws.map String.ofList).map String.toList = ws := by simp [Function.comp_def]
  exact ⟨ws.map String.ofList, _, by rwa [hwords], htells⟩

end PipelineLint.CommandLine
