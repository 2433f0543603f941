import CreationCommit.CommandLine.Arguments
import CreationCommit.Proofs.DecimalTexts

/-!
# Pairs of flags and values

Arguments that are pairs of a flag and its value set each parameter to the last
value that is given for it, in whatever order the pairs of different parameters
stand.  All other arguments are such pairs up to a first offence, which decides
what they come to, whatever follows it.
-/

namespace CreationCommit.CommandLine

namespace Parameter

/-- The spellings of the flag of a parameter. -/
def flags : Parameter → List String
  | settingsPath => ["-c", "--config"]
  | defaultsPath => ["-g", "--generate-config"]
  | replicas => ["-n", "--replicas"]
  | failing => ["--failing"]
  | departing => ["--departing"]
  | silent => ["--silent"]
  | lateJoiners => ["--late-joiners"]

/-- The values of a parameter are numbers, and not paths. -/
def isCount : Parameter → Bool
  | settingsPath | defaultsPath => false
  | replicas | failing | departing | silent | lateJoiners => true

theorem ofFlag?_eq_some_iff {flag : String} {parameter : Parameter} :
    ofFlag? flag = some parameter ↔ flag ∈ parameter.flags := by
  constructor
  · intro isFlag
    unfold ofFlag? at isFlag
    split at isFlag <;> cases isFlag <;> decide
  · intro isSpelling
    cases parameter <;> simp only [flags, List.mem_cons, List.not_mem_nil, or_false]
      at isSpelling
    case settingsPath | defaultsPath | replicas =>
      obtain rfl | rfl := isSpelling <;> rfl
    all_goals
      obtain rfl := isSpelling
      rfl

theorem ofFlag?_eq_none_iff {flag : String} :
    ofFlag? flag = none ↔ ∀ parameter : Parameter, flag ∉ parameter.flags := by
  rw [Option.eq_none_iff_forall_ne_some]
  exact forall_congr' fun parameter => not_congr ofFlag?_eq_some_iff

end Parameter

/-- What a parameter is set to. -/
inductive Setting
  | path (path : Option String)
  | count (number : Nat)
deriving DecidableEq, Repr

/-- What a value sets its parameter to: any text is a path, and a text that
writes a machine word is a number. -/
inductive Parameter.Takes (parameter : Parameter) (value : String) : Setting → Prop
  | path (isPath : parameter.isCount = false) :
      Takes parameter value (.path (some value))
  | count (isCount : parameter.isCount = true) (number : Nat)
      (writes : Decimal.Writes value.toList number) (fits : number < UInt64.size) :
      Takes parameter value (.count number)

/-- What a parameter is set to if no value is given for it. -/
def Parameter.unset : Parameter → Setting
  | settingsPath | defaultsPath => .path none
  | replicas => .count 3
  | failing | departing | silent | lateJoiners => .count 0

def Arguments.setting (arguments : Arguments) : Parameter → Setting
  | .settingsPath => .path arguments.settingsPath
  | .defaultsPath => .path arguments.defaultsPath
  | .replicas => .count arguments.shape.replicas
  | .failing => .count arguments.shape.failing
  | .departing => .count arguments.shape.departing
  | .silent => .count arguments.shape.silent
  | .lateJoiners => .count arguments.shape.lateJoiners

variable {parameter : Parameter} {flag value : String} {setting : Setting}
  {start arguments next : Arguments} {words earlier later : List String}
  {pairs : List (Parameter × String)} {outcome : Request} {error : DecimalError}

@[simp]
theorem Arguments.setting_default (parameter : Parameter) :
    Arguments.default.setting parameter = parameter.unset := by
  cases parameter <;> rfl

theorem readCount_eq_ok_iff {number : Nat} :
    readCount value = .ok number ↔
      Decimal.Writes value.toList number ∧ number < UInt64.size :=
  Decimal.read_eq_ok_iff (by decide)

theorem readCount_eq_error_iff :
    readCount value = .error error ↔
      Decimal.Faulty UInt64.size value.toList error :=
  Decimal.read_eq_error_iff (by decide)

namespace Parameter

/-- A value sets its parameter to one thing only. -/
theorem Takes.unique {other : Setting} (takes : parameter.Takes value setting)
    (takesOther : parameter.Takes value other) : setting = other := by
  cases takes with
  | path isPath =>
      cases takesOther with
      | path _ => rfl
      | count isCount => exact absurd isCount (by simp [isPath])
  | count isCount number writes fits =>
      cases takesOther with
      | path isPath => exact absurd isCount (by simp [isPath])
      | count _ otherNumber writesOther fitsOther =>
          have read := readCount_eq_ok_iff.2 ⟨writes, fits⟩
          rw [readCount_eq_ok_iff.2 ⟨writesOther, fitsOther⟩] at read
          cases read
          rfl

theorem takes_of_readCount {number : Nat} (isCount : parameter.isCount = true)
    (read : readCount value = .ok number) :
    parameter.Takes value (.count number) := by
  obtain ⟨writes, fits⟩ := readCount_eq_ok_iff.1 read
  exact .count isCount number writes fits

theorem takes_or_faulty (parameter : Parameter) (value : String) :
    (∃ setting, parameter.Takes value setting) ∨
      parameter.isCount = true ∧
        ∃ error, Decimal.Faulty UInt64.size value.toList error := by
  cases isCount : parameter.isCount with
  | false => exact .inl ⟨_, .path isCount⟩
  | true =>
      cases read : readCount value with
      | ok number => exact .inl ⟨_, takes_of_readCount isCount read⟩
      | error error => exact .inr ⟨rfl, error, readCount_eq_error_iff.1 read⟩

end Parameter

namespace Arguments

/-- The arguments in which one parameter is set, and else nothing is changed. -/
structure Puts (arguments : Arguments) (parameter : Parameter) (setting : Setting)
    (next : Arguments) : Prop where
  given : next.setting parameter = setting
  kept : ∀ other, other ≠ parameter → next.setting other = arguments.setting other
  payload : next.shape.payload = arguments.shape.payload

theorem eq_of_setting {other : Arguments}
    (settings : ∀ parameter, arguments.setting parameter = other.setting parameter)
    (payload : arguments.shape.payload = other.shape.payload) :
    arguments = other := by
  obtain ⟨settingsPath, defaultsPath, shape⟩ := arguments
  obtain ⟨otherSettingsPath, otherDefaultsPath, otherShape⟩ := other
  cases settings .settingsPath
  cases settings .defaultsPath
  obtain ⟨replicas, failing, departing, silent, lateJoiners, bytes⟩ := shape
  cases settings .replicas
  cases settings .failing
  cases settings .departing
  cases settings .silent
  cases settings .lateJoiners
  cases payload
  rfl

theorem exists_give (takes : parameter.Takes value setting)
    (arguments : Arguments) :
    ∃ next, arguments.give parameter value = .ok next ∧
      arguments.Puts parameter setting next := by
  cases takes with
  | path isPath =>
      cases parameter <;> cases isPath
      all_goals
        refine ⟨_, rfl, rfl, fun other isOther => ?_, rfl⟩
        cases other <;> first | rfl | exact absurd rfl isOther
  | count isCount number writes fits =>
      have read := readCount_eq_ok_iff.2 ⟨writes, fits⟩
      cases parameter <;> cases isCount <;> simp only [give, read]
      all_goals
        refine ⟨_, rfl, rfl, fun other isOther => ?_, rfl⟩
        cases other <;> first | rfl | exact absurd rfl isOther

theorem give_of_faulty (isCount : parameter.isCount = true)
    (faulty : Decimal.Faulty UInt64.size value.toList error)
    (arguments : Arguments) :
    arguments.give parameter value = .error error := by
  have read := readCount_eq_error_iff.2 faulty
  cases parameter <;> cases isCount <;> simp only [give, read] <;> rfl

end Arguments

/-- The words are pairs of a flag and a value that its parameter can take. -/
inductive Pairs : List String → List (Parameter × String) → Prop
  | none : Pairs [] []
  | pair (flag : String) (parameter : Parameter) (isFlag : flag ∈ parameter.flags)
      (value : String) (setting : Setting) (takes : parameter.Takes value setting)
      (words : List String) (pairs : List (Parameter × String))
      (others : Pairs words pairs) :
      Pairs (flag :: value :: words) ((parameter, value) :: pairs)

/-- The last of the values that are given for a parameter. -/
def lastValue? (pairs : List (Parameter × String)) (parameter : Parameter) :
    Option String :=
  (pairs.filter (·.1 = parameter)).getLast?.map (·.2)

/-- The parameter is set to what the last value for it says, and to what it was
set to before if there is none. -/
def Settled (pairs : List (Parameter × String)) (parameter : Parameter)
    (before after : Setting) : Prop :=
  match lastValue? pairs parameter with
  | none => after = before
  | some value => parameter.Takes value after

/-- The arguments in which each parameter is set as the pairs say. -/
structure Settles (pairs : List (Parameter × String)) (arguments : Arguments) :
    Prop where
  settled : ∀ parameter : Parameter,
    Settled pairs parameter parameter.unset (arguments.setting parameter)
  payload : arguments.shape.payload = GroupShape.defaultPayload

/-- The words begin with one that decides alone what they come to, or with a flag
whose value decides it. -/
inductive Offends : List String → Request → Prop
  | help (flag : String) (isFlag : flag ∈ ["-h", "--help"])
      (later : List String) : Offends (flag :: later) .help
  | version (flag : String) (isFlag : flag ∈ ["-v", "--version"])
      (later : List String) : Offends (flag :: later) .version
  | unknown (argument : String)
      (noFlag : ∀ parameter : Parameter, argument ∉ parameter.flags)
      (noRequest : argument ∉ ["-h", "--help", "-v", "--version"])
      (later : List String) :
      Offends (argument :: later) (.unknownArgument argument)
  | missing (flag : String) (parameter : Parameter)
      (isFlag : flag ∈ parameter.flags) : Offends [flag] (.missingValue flag)
  | invalid (flag : String) (parameter : Parameter)
      (isFlag : flag ∈ parameter.flags) (isCount : parameter.isCount = true)
      (value : String) (error : DecimalError)
      (faulty : Decimal.Faulty UInt64.size value.toList error)
      (later : List String) :
      Offends (flag :: value :: later) (.invalidNumber flag value error)

namespace Request

theorem parseFrom_of_noFlag (noFlag : Parameter.ofFlag? flag = none)
    (arguments : Arguments) (later : List String) :
    parseFrom arguments (flag :: later) = ofFlag flag := by
  cases later <;> simp only [parseFrom, noFlag]

theorem parseFrom_of_give (isFlag : flag ∈ parameter.flags)
    (given : arguments.give parameter value = .ok next) (later : List String) :
    parseFrom arguments (flag :: value :: later) = parseFrom next later := by
  simp only [parseFrom, Parameter.ofFlag?_eq_some_iff.2 isFlag, given]

theorem ofFlag_of_noRequest
    (noRequest : flag ∉ ["-h", "--help", "-v", "--version"]) :
    ofFlag flag = .unknownArgument flag := by
  unfold ofFlag
  split <;> first | rfl | exact absurd (by decide) noRequest

/-- The first offence decides, whatever was set before it and whatever follows. -/
theorem parseFrom_of_offends (offends : Offends words outcome)
    (arguments : Arguments) : parseFrom arguments words = outcome := by
  cases offends with
  | help flag isFlag later =>
      simp only [List.mem_cons, List.not_mem_nil, or_false] at isFlag
      obtain rfl | rfl := isFlag <;> exact parseFrom_of_noFlag rfl arguments later
  | version flag isFlag later =>
      simp only [List.mem_cons, List.not_mem_nil, or_false] at isFlag
      obtain rfl | rfl := isFlag <;> exact parseFrom_of_noFlag rfl arguments later
  | unknown argument noFlag noRequest later =>
      rw [parseFrom_of_noFlag (Parameter.ofFlag?_eq_none_iff.2 noFlag),
        ofFlag_of_noRequest noRequest]
  | missing flag parameter isFlag =>
      simp only [parseFrom, Parameter.ofFlag?_eq_some_iff.2 isFlag]
  | invalid flag parameter isFlag isCount value error faulty later =>
      simp only [parseFrom, Parameter.ofFlag?_eq_some_iff.2 isFlag,
        arguments.give_of_faulty isCount faulty]

end Request

theorem offends_of_noFlag (noFlag : Parameter.ofFlag? flag = none)
    (later : List String) : ∃ outcome, Offends (flag :: later) outcome := by
  by_cases isHelp : flag ∈ ["-h", "--help"]
  · exact ⟨_, .help flag isHelp later⟩
  by_cases isVersion : flag ∈ ["-v", "--version"]
  · exact ⟨_, .version flag isVersion later⟩
  exact ⟨_, .unknown flag (Parameter.ofFlag?_eq_none_iff.1 noFlag)
    (by simp_all) later⟩

/-- All words are pairs up to a first offence, or to the end. -/
theorem pairs_or_offends : ∀ words : List String,
    (∃ pairs, Pairs words pairs) ∨
      ∃ earlier pairs later outcome, words = earlier ++ later ∧
        Pairs earlier pairs ∧ Offends later outcome
  | [] => .inl ⟨[], .none⟩
  | flag :: rest => by
      cases isFlag : Parameter.ofFlag? flag with
      | none =>
          obtain ⟨outcome, offends⟩ := offends_of_noFlag isFlag rest
          exact .inr ⟨[], [], _, outcome, rfl, .none, offends⟩
      | some parameter =>
          rw [Parameter.ofFlag?_eq_some_iff] at isFlag
          match rest with
          | [] => exact .inr ⟨[], [], _, _, rfl, .none, .missing flag _ isFlag⟩
          | value :: rest =>
              -- the value is passed with its flag, so no flag is looked for in it
              rcases parameter.takes_or_faulty value with
                ⟨setting, takes⟩ | ⟨isCount, error, faulty⟩
              · rcases pairs_or_offends rest with ⟨pairs, arePairs⟩ |
                  ⟨earlier, pairs, later, outcome, rfl, arePairs, offends⟩
                · exact .inl ⟨_, .pair flag _ isFlag value _ takes _ _ arePairs⟩
                · exact .inr ⟨flag :: value :: earlier, _, later, outcome, rfl,
                    .pair flag _ isFlag value _ takes _ _ arePairs, offends⟩
              · exact .inr ⟨[], [], _, _, rfl, .none,
                  .invalid flag _ isFlag isCount value error faulty rest⟩

theorem lastValue?_cons_self (parameter : Parameter) (value : String)
    (pairs : List (Parameter × String)) :
    lastValue? ((parameter, value) :: pairs) parameter =
      some ((lastValue? pairs parameter).getD value) := by
  rw [lastValue?, lastValue?, List.filter_cons_of_pos (by simp),
    List.getLast?_cons]
  cases (pairs.filter (·.1 = parameter)).getLast? <;> rfl

theorem lastValue?_cons_of_ne {other : Parameter} (isOther : other ≠ parameter)
    (value : String) (pairs : List (Parameter × String)) :
    lastValue? ((parameter, value) :: pairs) other = lastValue? pairs other := by
  rw [lastValue?, lastValue?,
    List.filter_cons_of_neg (by simpa using isOther.symm)]

/-- What follows a value settles a parameter with it as it does without it, except
that the value counts if there is no later one. -/
theorem Settled.cons (puts : start.Puts parameter setting next)
    (takes : parameter.Takes value setting) {other : Parameter} {after : Setting}
    (settled : Settled pairs other (next.setting other) after) :
    Settled ((parameter, value) :: pairs) other (start.setting other) after := by
  unfold Settled at settled ⊢
  by_cases isOther : other = parameter
  · -- without a later value, what is set in `next` is what this value says
    subst isOther
    rw [lastValue?_cons_self]
    cases last : lastValue? pairs other with
    | none =>
        rw [last] at settled
        rwa [settled, puts.given]
    | some later => rwa [last] at settled
  · rw [lastValue?_cons_of_ne isOther]
    rwa [puts.kept other isOther] at settled

/-- The last value for a parameter fixes what it is set to. -/
theorem Settled.unique {before after other : Setting}
    (settled : Settled pairs parameter before after)
    (settledOther : Settled pairs parameter before other) : after = other := by
  unfold Settled at settled settledOther
  cases last : lastValue? pairs parameter with
  | none =>
      rw [last] at settled settledOther
      rw [settled, settledOther]
  | some value =>
      rw [last] at settled settledOther
      exact settled.unique settledOther

theorem Settles.unique {other : Arguments} (settles : Settles pairs arguments)
    (settlesOther : Settles pairs other) : arguments = other :=
  Arguments.eq_of_setting
    (fun parameter => (settles.settled parameter).unique
      (settlesOther.settled parameter))
    (settles.payload.trans settlesOther.payload.symm)

/-- What is settled depends only on the order of the values of each parameter. -/
theorem Settles.rearrange {rearranged : List (Parameter × String)}
    (settles : Settles pairs arguments)
    (sameOrders : ∀ parameter, rearranged.filter (·.1 = parameter) =
      pairs.filter (·.1 = parameter)) : Settles rearranged arguments where
  settled parameter := by
    have settled := settles.settled parameter
    rwa [Settled, lastValue?, ← sameOrders parameter] at settled
  payload := settles.payload

/-- Pairs are passed with each parameter set by them, and then what follows is
read. -/
theorem Pairs.parseFrom_append (arePairs : Pairs words pairs)
    (start : Arguments) :
    ∃ arguments,
      (∀ later, Request.parseFrom start (words ++ later) =
        Request.parseFrom arguments later) ∧
      (∀ parameter, Settled pairs parameter (start.setting parameter)
        (arguments.setting parameter)) ∧
      arguments.shape.payload = start.shape.payload := by
  induction arePairs generalizing start with
  | none => exact ⟨start, fun _ => rfl, fun _ => rfl, rfl⟩
  | pair flag parameter isFlag value setting takes words pairs _ ih =>
      obtain ⟨next, given, puts⟩ := Arguments.exists_give takes start
      obtain ⟨arguments, read, settled, payload⟩ := ih next
      refine ⟨arguments, fun later => ?_,
        fun other => (settled other).cons puts takes, payload.trans puts.payload⟩
      exact (Request.parseFrom_of_give isFlag given _).trans (read later)

theorem Pairs.parse_append (arePairs : Pairs words pairs) :
    ∃ arguments, Settles pairs arguments ∧
      ∀ later, Request.parse (words ++ later) =
        Request.parseFrom arguments later := by
  obtain ⟨arguments, read, settled, payload⟩ := arePairs.parseFrom_append .default
  simp only [Arguments.setting_default] at settled
  exact ⟨arguments, ⟨settled, payload⟩, read⟩

theorem Pairs.parse (arePairs : Pairs words pairs) :
    ∃ arguments, Request.parse words = .rehearse arguments ∧
      Settles pairs arguments := by
  obtain ⟨arguments, settles, read⟩ := arePairs.parse_append
  have readAll := read []
  rw [List.append_nil] at readAll
  exact ⟨arguments, readAll, settles⟩

theorem Pairs.parse_rearranged {others : List String}
    {rearranged : List (Parameter × String)} (arePairs : Pairs words pairs)
    (areRearranged : Pairs others rearranged)
    (sameOrders : ∀ parameter, rearranged.filter (·.1 = parameter) =
      pairs.filter (·.1 = parameter)) :
    Request.parse others = Request.parse words := by
  obtain ⟨arguments, read, settles⟩ := arePairs.parse
  obtain ⟨other, readOther, settlesOther⟩ := areRearranged.parse
  rw [read, readOther, settlesOther.unique (settles.rearrange sameOrders)]

/-- Words that are pairs set each parameter to its last value, whatever that looks
like, or leave it as it is without any; so only the order of the values of one
parameter matters.  All other words are pairs up to a first offence, and it alone
decides what they come to. -/
theorem parse_last_values_or_first_offence :
    (∀ words pairs, Pairs words pairs →
      ∃ arguments, Request.parse words = .rehearse arguments ∧
        Settles pairs arguments) ∧
    (∀ words pairs others rearranged, Pairs words pairs →
      Pairs others rearranged →
      (∀ parameter, rearranged.filter (·.1 = parameter) =
        pairs.filter (·.1 = parameter)) →
      Request.parse others = Request.parse words) ∧
    (∀ earlier pairs later outcome, Pairs earlier pairs →
      Offends later outcome → Request.parse (earlier ++ later) = outcome) ∧
    ∀ words, (∃ pairs, Pairs words pairs) ∨
      ∃ earlier pairs later outcome, words = earlier ++ later ∧
        Pairs earlier pairs ∧ Offends later outcome := by
  refine ⟨fun _ _ => Pairs.parse, fun _ _ _ _ => Pairs.parse_rearranged,
    fun _ _ later _ arePairs offends => ?_, pairs_or_offends⟩
  obtain ⟨arguments, -, read⟩ := arePairs.parse_append
  rw [read later, Request.parseFrom_of_offends offends]

/-- Two paths and two numbers, of which the first path looks like a request. -/
theorem pairs_paths_and_counts :
    Pairs ["-c", "--help", "-n", "4", "--config", "a", "--replicas", "+5"]
      [(.settingsPath, "--help"), (.replicas, "4"), (.settingsPath, "a"),
        (.replicas, "+5")] :=
  .pair _ _ (by decide) _ _ (.path rfl) _ _ <|
  .pair _ _ (by decide) _ _ (Parameter.takes_of_readCount rfl rfl) _ _ <|
  .pair _ _ (by decide) _ _ (.path rfl) _ _ <|
  .pair _ _ (by decide) _ _ (Parameter.takes_of_readCount rfl rfl) _ _ .none

/-- The same pairs of each parameter in another order and other spellings. -/
theorem pairs_counts_and_paths :
    Pairs ["--replicas", "4", "-n", "+5", "--config", "--help", "-c", "a"]
      [(.replicas, "4"), (.replicas, "+5"), (.settingsPath, "--help"),
        (.settingsPath, "a")] :=
  .pair _ _ (by decide) _ _ (Parameter.takes_of_readCount rfl rfl) _ _ <|
  .pair _ _ (by decide) _ _ (Parameter.takes_of_readCount rfl rfl) _ _ <|
  .pair _ _ (by decide) _ _ (.path rfl) _ _ <|
  .pair _ _ (by decide) _ _ (.path rfl) _ _ .none

/-- The last path and the last number count in both orders, and a number that is
none decides, though help is asked for after it. -/
theorem parse_paths_and_counts :
    (∃ arguments,
      Request.parse ["-c", "--help", "-n", "4", "--config", "a",
        "--replicas", "+5"] = .rehearse arguments ∧
      arguments.settingsPath = some "a" ∧ arguments.defaultsPath = none ∧
      arguments.shape.replicas = 5) ∧
    Request.parse ["--replicas", "4", "-n", "+5", "--config", "--help", "-c",
        "a"] =
      Request.parse ["-c", "--help", "-n", "4", "--config", "a",
        "--replicas", "+5"] ∧
    Request.parse ["-c", "--help", "-n", "4", "--config", "a", "--replicas", "+5",
        "--silent", "many", "--help"] =
      .invalidNumber "--silent" "many" .invalidDigit := by
  obtain ⟨parse, rearranged, refused, -⟩ := parse_last_values_or_first_offence
  refine ⟨?last, ?rearranged, ?refused⟩
  case last =>
    obtain ⟨arguments, read, settled, -⟩ := parse _ _ pairs_paths_and_counts
    have path : Parameter.settingsPath.Takes "a" (.path arguments.settingsPath) :=
      settled .settingsPath
    have noPath : Setting.path arguments.defaultsPath = .path none :=
      settled .defaultsPath
    have count : Parameter.replicas.Takes "+5" (.count arguments.shape.replicas) :=
      settled .replicas
    exact ⟨arguments, read, Setting.path.inj (path.unique (.path rfl)),
      Setting.path.inj noPath, Setting.count.inj (count.unique
        (Parameter.takes_of_readCount rfl rfl))⟩
  case rearranged =>
    exact rearranged _ _ _ _ pairs_paths_and_counts pairs_counts_and_paths
      fun parameter => by cases parameter <;> rfl
  case refused =>
    exact refused _ _ _ _ pairs_paths_and_counts
      (.invalid "--silent" .silent (by decide) rfl "many" .invalidDigit
        (readCount_eq_error_iff.1 rfl) ["--help"])

end CreationCommit.CommandLine
