import CatalogBridge.Proofs.Duration.Reading
import CatalogBridge.Settings.CommandLine

/-!
# Command lines that are not worked out

A command line is refused with a message about what is wrong with it, with one exception:
adding up the time between resyncs may break off, and then there is neither a value nor a
message about one.  This module says when that happens.

* `readDuration_eq_aborted_iff` says which texts a reading breaks off at.
* `Sound` is a condition on results: a value is good, and a result that broke off did so
  over a text that was offered. There is one lemma for every function on the way, and
  `sound_parse` is the one for whole command lines.
* `aborted_iff_overflows` puts this together with the texts that overflow, and
  `aborted_of_halves` is a text of two parts that fit one by one.
-/

namespace CatalogBridge.CommandLine

open Duration (Overflows)

/-- The message that is left of a reading that broke off. -/
def breakOff : String := Duration.ParseError.overflow.message

theorem readDuration_eq_aborted_iff {flag : Flag} {value message : String} :
    readDuration flag value = .error (.aborted message) ↔
      Overflows (trim value.toList) ∧ message = breakOff := by
  rw [← Duration.parse_eq_overflow_iff, readDuration]
  generalize Duration.parse value = result
  cases result with
  | ok d => simp [Except.mapError]
  | error cause => cases cause <;> simp [Except.mapError, breakOff, eq_comm]

/-! ## Results -/

variable {α β : Type} {offered : String → Prop} {good : α → Prop} {better : β → Prop}

/-- A value is good, and a result that broke off did so over a text that was offered and
overflows. Any other refusal will do. -/
def Sound (offered : String → Prop) (good : α → Prop) : Except Refusal α → Prop
  | .ok value => good value
  | .error (.aborted message) =>
    message = breakOff ∧ ∃ value, offered value ∧ Overflows (trim value.toList)
  | .error _ => True

/-- A refusal is passed on, whatever the values are. -/
theorem Sound.rethrow {refusal : Refusal}
    (h : Sound offered good (.error refusal : Except Refusal α)) :
    Sound offered better (.error refusal : Except Refusal β) := by
  cases refusal <;> exact h

theorem Sound.bind {result : Except Refusal α} {next : α → Except Refusal β}
    (h : Sound offered good result)
    (hnext : ∀ value, good value → Sound offered better (next value)) :
    Sound offered better (result >>= next) := by
  cases result with
  | ok value => exact hnext value h
  | error refusal => exact h.rethrow

/-! ## Values -/

/-- Every value was looked at and found right. -/
def Checked (given : Given) : Prop := ∀ entry ∈ given, check entry.1 entry.2 = .ok ()

theorem sound_readEndpoint (flag : Flag) (value : String) :
    Sound offered (fun _ => True) (readEndpoint flag value) := by
  unfold readEndpoint
  cases Settings.parseListenAddress value <;> trivial

theorem sound_readTruth (flag : Flag) (value : String) :
    Sound offered (fun _ => True) (readTruth flag value) := by
  unfold readTruth
  cases Settings.parseTruth value <;> trivial

theorem sound_readDuration {flag : Flag} {value : String} (hvalue : offered value) :
    Sound offered (fun _ => True) (readDuration flag value) := by
  cases hread : readDuration flag value with
  | ok d => trivial
  | error refusal =>
    cases refusal with
    | aborted message =>
      obtain ⟨hover, hmessage⟩ := readDuration_eq_aborted_iff.1 hread
      exact ⟨hmessage, value, hvalue, hover⟩
    | _ => trivial

theorem sound_check {flag : Flag} {value : String}
    (hvalue : flag = .resyncInterval → offered value) :
    Sound offered (fun _ => check flag value = .ok ()) (check flag value) := by
  have hmap : ∀ {α : Type} {result : Except Refusal α}, Sound offered (fun _ => True) result →
      Sound offered (fun _ => result.map (fun _ => ()) = .ok ()) (result.map fun _ => ()) := by
    intro α result h
    cases result with
    | ok value => rfl
    | error refusal => exact h.rethrow
  cases flag with
  | metricsAddr => exact hmap (sound_readEndpoint _ _)
  | resyncInterval => exact hmap (sound_readDuration (hvalue rfl))
  | enableHttproutes => exact hmap (sound_readTruth _ _)
  | _ => rfl

theorem sound_take {given : Given} (hgiven : Checked given) {flag : Flag} {value : String}
    (hvalue : flag = .resyncInterval → offered value) :
    Sound offered Checked (take given flag value) := by
  unfold take
  split_ifs
  · trivial
  · refine (sound_check hvalue).bind fun _ hvalue => ?_
    exact List.forall_mem_cons.2 ⟨hvalue, hgiven⟩

/-! ## Arguments -/

/-- What was taken so far is right, and a value that is not settled yet was offered. -/
structure Scan.Fair (offered : String → Prop) (scan : Scan) : Prop where
  given : Checked scan.given
  value : ∀ flag value, scan.unsettled = some (flag, some value) → offered value

theorem Scan.Fair.settle {scan : Scan} (h : scan.Fair offered) :
    Sound offered (Scan.Fair offered) scan.settle := by
  unfold Scan.settle
  split
  · exact h
  · trivial
  · rename_i flag value hunsettled
    have htake := sound_take h.given fun _ : flag = .resyncInterval => h.value flag value hunsettled
    generalize take scan.given flag value = taken at htake
    cases taken with
    | ok given => exact ⟨htake, by simp⟩
    | error refusal => exact htake.rethrow

/-- No switch breaks off. -/
theorem sound_switch {versioned : Bool} {name : String} {refusal : Refusal}
    (h : switch? versioned name = some refusal) :
    Sound offered good (.error refusal) := by
  unfold switch? at h
  split_ifs at h <;> cases h <;> trivial

theorem Scan.Fair.long {scan : Scan} (h : scan.Fair offered) {versioned : Bool} {name : String}
    {value : Option String} (hvalue : ∀ text, name = Flag.resyncInterval.name →
      value = some text → offered text) :
    Sound offered (Scan.Fair offered) (scan.long versioned name value) := by
  unfold Scan.long
  split
  · rename_i flag hflag
    refine h.settle.bind fun scan hscan => ?_
    split
    · rename_i text
      refine (sound_take hscan.given ?_).bind fun given hgiven => ⟨hgiven, hscan.value⟩
      rintro rfl
      have hname : Flag.resyncInterval.name = name := by simpa using List.find?_some hflag
      exact hvalue text hname.symm rfl
    · exact ⟨hscan.given, by simp⟩
  · split
    · trivial
    · rename_i refusal hswitch
      exact h.settle.bind fun _ _ => sound_switch hswitch
    · trivial

theorem Scan.Fair.short {scan : Scan} (h : scan.Fair offered) {versioned : Bool} {letter : Char} :
    Sound offered (Scan.Fair offered) (scan.short versioned letter) := by
  unfold Scan.short
  split_ifs
  · exact h.settle.bind fun _ _ => trivial
  · exact h.settle.bind fun _ _ => trivial
  · trivial

theorem Scan.Fair.word {scan : Scan} (h : scan.Fair offered) {argument : String}
    (hargument : offered argument) :
    Sound offered (Scan.Fair offered) (scan.word argument) := by
  unfold Scan.word
  split
  · refine ⟨h.given, fun flag value hvalue => ?_⟩
    obtain ⟨_, hsame⟩ := Prod.mk.inj (Option.some.inj hvalue)
    exact Option.some.inj hsame ▸ hargument
  · trivial

/-- What stands before and behind the equals sign is the text. -/
theorem eq_of_splitEquals {text : List Char} {name value : String}
    (h : splitEquals text = (name, some value)) : String.ofList text = name ++ "=" ++ value := by
  obtain ⟨rfl, hvalue⟩ := Prod.mk.inj h
  have hcut := List.takeWhile_append_dropWhile (p := (· ≠ '=')) (l := text)
  have hhead := List.head?_dropWhile_not (· ≠ '=') text
  split at hvalue
  · rename_i c rest hdrop
    obtain rfl := Option.some.inj hvalue
    rw [hdrop] at hcut hhead
    obtain rfl : c = '=' := by simpa using hhead
    have hsplit : text = text.takeWhile (· ≠ '=') ++ ['='] ++ rest := by
      rw [List.append_assoc]
      exact hcut.symm
    exact (congrArg String.ofList hsplit).trans (by simp only [String.ofList_append])
  · cases hvalue

/-- The time between resyncs as a command line or an environment may give it: an argument, what an
argument says behind the name of the option, or the variable of the option. -/
def Offered (arguments : List String) (environment : String → Option String)
    (value : String) : Prop :=
  value ∈ arguments ∨ "--resync-interval=" ++ value ∈ arguments ∨
    environment "RESYNC_INTERVAL" = some value

variable {arguments : List String} {environment : String → Option String} {scan : Scan}

theorem Scan.Fair.argument (h : scan.Fair (Offered arguments environment)) (versioned : Bool)
    {argument : String} (hargument : argument ∈ arguments) :
    Sound (Offered arguments environment) (Scan.Fair (Offered arguments environment))
      (scan.argument versioned argument) := by
  unfold Scan.argument
  split_ifs
  · exact h.word (.inl hargument)
  · split
    · exact ⟨h.given, h.value⟩
    · rename_i rest _ htext
      refine h.long fun text hname hvalue => .inr (.inl ?_)
      have hrest := eq_of_splitEquals (Prod.ext hname hvalue)
      have hwhole : argument = "--" ++ String.ofList rest := String.toList_inj.1 (by simp [htext])
      rw [hrest] at hwhole
      exact hwhole ▸ hargument
    · exact h.short
    · exact h.word (.inl hargument)

theorem Scan.Fair.scanAll (h : scan.Fair (Offered arguments environment)) {versioned : Bool}
    {rest : List String} (hrest : ∀ argument ∈ rest, argument ∈ arguments) :
    Sound (Offered arguments environment) Checked (scanAll versioned scan rest) := by
  induction rest generalizing scan with
  | nil =>
    have hsettle := h.settle
    unfold CommandLine.scanAll
    generalize scan.settle = settled at hsettle
    cases settled with
    | ok settled => exact hsettle.given
    | error refusal => exact hsettle.rethrow
  | cons argument others ih =>
    obtain ⟨hargument, hothers⟩ := List.forall_mem_cons.1 hrest
    have hread := h.argument versioned hargument
    unfold CommandLine.scanAll
    generalize scan.argument versioned argument = read at hread
    cases read with
    | ok scan => exact ih hread hothers
    | error refusal => exact hread.rethrow

/-! ## The environment and the defaults -/

theorem sound_addEnvironment {given : Given} (h : Checked given) (flags : List Flag) :
    Sound (Offered arguments environment) Checked (addEnvironment environment given flags) := by
  induction flags generalizing given with
  | nil => exact h
  | cons flag rest ih =>
    unfold addEnvironment
    split
    · rename_i value _ hvariable
      have hoffered : flag = .resyncInterval → Offered arguments environment value := by
        rintro rfl
        exact .inr (.inr hvariable)
      have htake := sound_take h hoffered
      generalize take given flag value = taken at htake
      cases taken with
      | ok given => exact ih htake
      | error refusal => exact htake.rethrow
    · exact ih h

theorem sound_textOf (given : Given) (flag : Flag) :
    Sound offered (fun _ => True) (textOf given flag) := by
  unfold textOf
  split <;> trivial

/-- Without a value, the time between resyncs is five minutes. -/
theorem readDuration_default :
    readDuration .resyncInterval "5m" = .ok (.ofSeconds 300) := by
  have hparse : Duration.parse "5m" = .ok (.ofSeconds 300) := by
    refine Duration.parse_eq_ok_iff.2 ⟨[⟨['5'], .minute, by decide⟩], [.ofSeconds 300],
      ⟨by simp, by decide +kernel, by decide +kernel, fun count => ?_, by decide⟩, by decide⟩
    exact Nat.le_trans (Duration.total_take_le _ count) (by decide +kernel)
  rw [readDuration, hparse]
  rfl

theorem sound_readOf_resyncInterval {given : Given} (h : Checked given) :
    Sound offered (fun _ => True) (readOf given .resyncInterval readDuration) := by
  have hread : ∃ value d, valueOf given .resyncInterval = some value ∧
      readDuration .resyncInterval value = .ok d := by
    cases hget : given.get? .resyncInterval with
    | none => exact ⟨"5m", _, by rw [valueOf, hget]; rfl, readDuration_default⟩
    | some value =>
      obtain ⟨⟨flag, text⟩, hfind, rfl⟩ := Option.map_eq_some_iff.1 hget
      obtain rfl : flag = .resyncInterval := by simpa using List.find?_some hfind
      have hcheck : (readDuration .resyncInterval text).map (fun _ => ()) = .ok () :=
        h _ (List.mem_of_find?_eq_some hfind)
      cases hduration : readDuration .resyncInterval text with
      | ok d => exact ⟨text, d, by rw [valueOf, hget]; rfl, hduration⟩
      | error refusal =>
        rw [hduration] at hcheck
        cases hcheck
  obtain ⟨value, d, hvalue, hduration⟩ := hread
  have htext : textOf given .resyncInterval = .ok value := by rw [textOf, hvalue]
  rw [readOf, htext]
  show Sound offered _ (readDuration .resyncInterval value)
  rw [hduration]
  trivial

/-- Settings made of right values break off nowhere. -/
theorem sound_settingsOf {given : Given} (h : Checked given) :
    Sound offered (fun _ => True) (settingsOf given) := by
  have hresync : Sound offered (fun _ => True) (readOf given .resyncInterval readDuration) :=
    sound_readOf_resyncInterval h
  have hendpoint : Sound offered (fun _ => True) (readOf given .metricsAddr readEndpoint) :=
    (sound_textOf given .metricsAddr).bind fun value _ => sound_readEndpoint _ value
  have htruth : Sound offered (fun _ => True) (readOf given .enableHttproutes readTruth) :=
    (sound_textOf given .enableHttproutes).bind fun value _ => sound_readTruth _ value
  unfold settingsOf
  refine (sound_textOf given .consulAddr).bind fun _ _ => ?_
  refine (sound_textOf given .consulTag).bind fun _ _ => ?_
  refine (sound_textOf given .targetNamespace).bind fun _ _ => ?_
  refine hendpoint.bind fun _ _ => hresync.bind fun _ _ => htruth.bind fun _ _ => ?_
  refine (sound_textOf given .domainSuffix).bind fun _ _ => ?_
  refine (sound_textOf given .internalGateway).bind fun _ _ => ?_
  refine (sound_textOf given .externalGateway).bind fun _ _ => ?_
  refine (sound_textOf given .gatewayListener).bind fun _ _ => ?_
  refine (sound_textOf given .internalTag).bind fun _ _ => ?_
  exact (sound_textOf given .externalTag).bind fun _ _ => trivial

/-! ## Whole command lines -/

/-- A command line breaks off only over a time between resyncs that it or its environment gives. -/
theorem sound_parse (versioned : Bool) (arguments : List String)
    (environment : String → Option String) :
    Sound (Offered arguments environment) (fun _ => True)
      (parse versioned arguments environment) := by
  have hstart : Scan.Fair (Offered arguments environment) ⟨[], none, false, false⟩ :=
    ⟨by simp [Checked], by simp⟩
  refine (hstart.scanAll fun _ h => h).bind fun given hgiven => ?_
  exact (sound_addEnvironment hgiven Flag.all).bind fun _ hvalues => sound_settingsOf hvalues

theorem splitEquals_append {name : List Char} (hname : '=' ∉ name) (value : List Char) :
    splitEquals (name ++ '=' :: value) = (String.ofList name, some (String.ofList value)) := by
  have hall : ∀ c ∈ name, decide (c ≠ '=') = true := by
    intro c hc
    rw [decide_eq_true_iff]
    rintro rfl
    exact hname hc
  have htake : (name ++ '=' :: value).takeWhile (· ≠ '=') = name := by
    rw [List.takeWhile_append_of_pos hall]
    simp
  have hdrop : (name ++ '=' :: value).dropWhile (· ≠ '=') = '=' :: value := by
    rw [List.dropWhile_append_of_pos hall]
    simp
  rw [splitEquals, htake, hdrop]

/-- A command line breaks off at the time between resyncs, if that is given first and overflows. -/
theorem parse_of_overflows {value : String} (h : Overflows (trim value.toList)) (versioned : Bool)
    (rest : List String) (environment : String → Option String) :
    parse versioned (("--resync-interval=" ++ value) :: rest) environment
      = .error (.aborted breakOff) := by
  have hread : readDuration .resyncInterval value = .error (.aborted breakOff) :=
    readDuration_eq_aborted_iff.2 ⟨h, rfl⟩
  have htake : take [] .resyncInterval value = .error (.aborted breakOff) := by
    have hcheck : check .resyncInterval value = .error (.aborted breakOff) := by
      rw [check, hread]
      rfl
    show (check .resyncInterval value).bind _ = _
    rw [hcheck]
    rfl
  have hlist : ("--resync-interval=" ++ value).toList
      = '-' :: '-' :: (Flag.resyncInterval.name.toList ++ '=' :: value.toList) := by
    rw [String.toList_append]
    rfl
  have hsplit : splitEquals (Flag.resyncInterval.name.toList ++ '=' :: value.toList)
      = (Flag.resyncInterval.name, some value) := by
    rw [splitEquals_append (by decide), String.ofList_toList, String.ofList_toList]
  have hargument : Scan.argument ⟨[], none, false, false⟩ versioned
      ("--resync-interval=" ++ value) = .error (.aborted breakOff) := by
    rw [Scan.argument, if_neg (by decide), hlist]
    show Scan.long _ versioned
      (splitEquals (Flag.resyncInterval.name.toList ++ '=' :: value.toList)).1
      (splitEquals (Flag.resyncInterval.name.toList ++ '=' :: value.toList)).2 = _
    rw [hsplit]
    show (take [] .resyncInterval value).bind _ = _
    rw [htake]
    rfl
  show (scanAll versioned _ (_ :: rest)).bind _ = _
  rw [scanAll, hargument]
  rfl

/-- The reading of a text breaks off exactly if the text begins with amounts that fit one by one and
together are beyond the longest duration.

Command lines break off over such texts only, given as the time between resyncs, and over each of
them where it is given first. All that is left is a message that is not about the command line. -/
theorem aborted_iff_overflows (text : String) (versioned : Bool) (arguments : List String)
    (environment : String → Option String) :
    (Duration.parse text = .error .overflow ↔ Overflows (trim text.toList)) ∧
    (∀ message, parse versioned arguments environment = .error (.aborted message) →
      message = breakOff ∧
        ∃ value, Offered arguments environment value ∧ Overflows (trim value.toList)) ∧
    (Overflows (trim text.toList) →
      parse versioned (("--resync-interval=" ++ text) :: arguments) environment
        = .error (.aborted breakOff)) := by
  refine ⟨Duration.parse_eq_overflow_iff, ?_, fun h => parse_of_overflows h _ _ _⟩
  intro message haborted
  have hsound := sound_parse versioned arguments environment
  rw [haborted] at hsound
  exact hsound

/-- An amount two of which are one nanosecond more than a duration can express. -/
def half : Duration.Amount := ⟨"9223372036854775808".toList, .second, by decide⟩

theorem duration?_half : half.duration? = some (.ofSeconds 9223372036854775808) := by
  decide +kernel

theorem overflows_halves {rest : List Char} (hrest : Duration.Apart rest) :
    Overflows (Duration.written [half, half] ++ rest) :=
  ⟨[half, half], [.ofSeconds 9223372036854775808, .ofSeconds 9223372036854775808], rest, rfl,
    hrest, by simp [duration?_half], by decide +kernel⟩

/-- The third part of this value is no amount, and the help is asked for, but the first two parts
come before them. -/
theorem aborted_iff_overflows_early :
    let value := " 9223372036854775808s9223372036854775808s1x"
    let arguments := ["--resync-interval=" ++ value, "--help"]
    Overflows (trim value.toList) ∧ Duration.parse value = .error .overflow ∧
      parse true arguments (fun _ => none) = .error (.aborted breakOff) ∧
      ∃ cause, Offered arguments (fun _ => none) cause ∧ Overflows (trim cause.toList) := by
  intro value arguments
  obtain ⟨hreading, _, hfirst⟩ := aborted_iff_overflows value true ["--help"] fun _ => none
  obtain ⟨_, honly, _⟩ := aborted_iff_overflows value true arguments fun _ => none
  have htrim : trim value.toList = Duration.written [half, half] ++ ['1', 'x'] := by
    decide +kernel
  have hover : Overflows (trim value.toList) := by
    rw [htrim]
    refine overflows_halves fun c hc => ?_
    obtain rfl : '1' = c := by simpa using hc
    decide
  have haborted := hfirst hover
  exact ⟨hover, hreading.2 hover, haborted, (honly _ haborted).2⟩

/-- A text whose parts fit one by one breaks a reading off, and a command line with it: there is
neither a duration nor a refusal of the text. -/
theorem aborted_of_halves :
    let text := "9223372036854775808s9223372036854775808s"
    Duration.parse "9223372036854775808s" = .ok (.ofSeconds 9223372036854775808) ∧
      Duration.parse text = .error .overflow ∧
      parse false ["--resync-interval=" ++ text, "--consul-addr=http://consul:8500"]
        (fun _ => none) = .error (.aborted "overflow when adding durations") := by
  intro text
  have hover : Overflows (trim text.toList) := by
    have htrim : trim text.toList = Duration.written [half, half] ++ [] := by decide +kernel
    rw [htrim]
    exact overflows_halves Duration.apart_nil
  have hone : Duration.parse "9223372036854775808s" = .ok (.ofSeconds 9223372036854775808) := by
    refine Duration.parse_eq_ok_iff.2 ⟨[half], [.ofSeconds 9223372036854775808],
      ⟨by simp, by decide +kernel, by simp [duration?_half], fun count => ?_, by decide⟩, by decide⟩
    exact Nat.le_trans (Duration.total_take_le _ count) (by decide +kernel)
  exact ⟨hone, Duration.parse_eq_overflow_iff.2 hover, parse_of_overflows hover _ _ _⟩

end CatalogBridge.CommandLine
