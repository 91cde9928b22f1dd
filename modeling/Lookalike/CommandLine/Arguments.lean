import Lookalike.CommandLine.Command

/-! ### Reading arguments

The arguments come at two levels: options that hold for every command, up to the name of a command,
and then the options and operands of that command, among which the former may stand too. An option
is given by a long name after two dashes or by a letter after one. Its value is attached to it or is
the next argument, which then does not open with a dash. After an argument of two dashes there are
only operands. No option is given twice at one level. -/

namespace Lookalike.CommandLine

/-- Why there is no command to be carried out. -/
inductive Refusal where
  | help
  | version
  | misuse
  deriving DecidableEq

/-! ### Levels -/

/-- What an option does: it switches something on, it takes a value, or it ends the reading. -/
inductive Role where
  | switch
  | value (isValid : String → Bool)
  | stop (refusal : Refusal)

/-- An option: its long name, its letter and its role. -/
structure Flag where
  long : String
  letter : Option Char
  role : Role

/-- What a level takes besides options: the name of a command, or so many operands at most. -/
inductive Operands where
  | command
  | paths (most : Option Nat)

/-- What a level takes. -/
structure Level where
  flags : List Flag
  operands : Operands

/-- What the arguments of a level say: the values of options by their long names, where a switch has
the empty one, and the operands. -/
structure Given where
  values : List (String × String)
  operands : List String

namespace Given

/-- Nothing is given. -/
def nothing : Given :=
  ⟨[], []⟩

/-- The value of an option. -/
def value? (g : Given) (long : String) : Option String :=
  (g.values.find? (·.1 = long)).map (·.2)

/-- Whether an option is given. -/
def has (g : Given) (long : String) : Bool :=
  (g.value? long).isSome

/-- With one more option, unless it is given already. -/
def add (g : Given) (long value : String) : Except Refusal Given :=
  if g.has long then .error .misuse else .ok { g with values := g.values ++ [(long, value)] }

/-- With more operands, if there may be so many. No operand is empty. -/
def addOperands (g : Given) (most : Option Nat) (operands : List String) : Except Refusal Given :=
  let all := g.operands ++ operands
  if most.any (· < all.length) || operands.any (·.isEmpty) then .error .misuse
  else .ok { g with operands := all }

/-- The floating point number of an option. -/
def float (g : Given) (long : String) (default : Float) : Float :=
  ((g.value? long).bind Reading.float?).getD default

/-- The natural number of an option. -/
def count (g : Given) (long : String) (default : Nat) : Nat :=
  ((g.value? long).bind (Reading.natural? 64)).getD default

end Given

/-! ### Arguments -/

/-- The name under which an option is given. -/
inductive FlagName where
  | long (name : String)
  | letter (c : Char)

/-- An argument: two dashes, an option with the value that is attached to it, or an operand. -/
inductive Argument where
  | divider
  | flag (name : FlagName) (attached : Option String)
  | operand (s : String)

/-- The value after a letter. -/
def afterLetter : List Char → Option String
  | [] => none
  | '=' :: rest => some (String.ofList rest)
  | rest => some (String.ofList rest)

/-- What an argument is. -/
def Argument.of (s : String) : Argument :=
  match s.toList with
  | ['-', '-'] => .divider
  | '-' :: '-' :: rest =>
    let name := String.ofList (rest.takeWhile (· ≠ '='))
    match rest.dropWhile (· ≠ '=') with
    | [] => .flag (.long name) none
    | _ :: value => .flag (.long name) (some (String.ofList value))
  | '-' :: c :: rest => .flag (.letter c) (afterLetter rest)
  | _ => .operand s

/-- Whether an option has a given name. -/
def Flag.isNamed (f : Flag) : FlagName → Bool
  | .long name => f.long = name
  | .letter c => f.letter = some c

/-- What an option adds, and whether it takes the next argument for its value. -/
def Flag.take (f : Flag) (name : FlagName) (attached next : Option String) (g : Given) :
    Except Refusal (Given × Bool) :=
  match f.role, name, attached with
  | .stop refusal, .letter _, _ => .error refusal
  | .stop refusal, .long _, none => .error refusal
  | .stop _, .long _, some _ => .error .misuse
  | .switch, _, none => (g.add f.long "").map fun g => (g, false)
  | .switch, _, some _ => .error .misuse
  | .value isValid, _, some value =>
    if isValid value then (g.add f.long value).map fun g => (g, false) else .error .misuse
  | .value isValid, _, none =>
    match next.map Argument.of with
    | some (.operand value) =>
      if isValid value then (g.add f.long value).map fun g => (g, true) else .error .misuse
    | _ => .error .misuse

/-- What the arguments of a level say on top of what is given, and the arguments from the name of a
command on. -/
def Level.read (l : Level) (g : Given) : List String → Except Refusal (Given × List String)
  | [] => .ok (g, [])
  | arg :: rest =>
    match Argument.of arg with
    | .divider =>
      match l.operands with
      | .command => .error .misuse
      | .paths most => (g.addOperands most rest).map fun g => (g, [])
    | .operand s =>
      match l.operands with
      | .command => .ok (g, arg :: rest)
      | .paths most =>
        match g.addOperands most [s] with
        | .error refusal => .error refusal
        | .ok g => l.read g rest
    | .flag name attached =>
      match l.flags.find? (·.isNamed name) with
      | none => .error .misuse
      | some f =>
        match f.take name attached rest.head? g with
        | .error refusal => .error refusal
        | .ok (g, true) => l.read g rest.tail
        | .ok (g, false) => l.read g rest
termination_by args => args.length
decreasing_by all_goals simp only [List.length_tail, List.length_cons]; omega

/-! ### The commands -/

/-- A value that is a path. -/
def isPath (s : String) : Bool :=
  !s.isEmpty

/-- A value that is a floating point number. -/
def isFloat (s : String) : Bool :=
  (Reading.float? s).isSome

/-- A value that is a natural number. -/
def isCount (s : String) : Bool :=
  (Reading.natural? 64 s).isSome

/-- The options that every level has. -/
def sharedFlags : List Flag :=
  [⟨"db", none, .value isPath⟩, ⟨"json", none, .switch⟩, ⟨"help", some 'h', .stop .help⟩]

/-- The level before the name of a command. -/
def outerLevel : Level :=
  ⟨⟨"version", some 'V', .stop .version⟩ :: sharedFlags, .command⟩

/-- The option for a threshold. -/
def thresholdFlag : Flag :=
  ⟨"threshold", some 't', .value isFloat⟩

/-- The switch for comparing all pairs. -/
def fullFlag : Flag :=
  ⟨"full", none, .switch⟩

/-- How pairs are looked for. -/
def Given.mode (g : Given) : Mode :=
  if g.has "full" then .exhaustive else .fast

/-- A command as it is asked for: its name, its own options, how many operands it has at most, and
what is asked for. -/
structure Form where
  name : String
  flags : List Flag
  mostOperands : Option Nat
  command? : Given → Option Command

/-- The forms of all commands. -/
def forms : List Form :=
  [⟨"register", [], none, fun g =>
      if g.operands.isEmpty then none else some (.register g.operands)⟩,
    ⟨"similar", [⟨"name", some 'n', .value fun _ => true⟩, thresholdFlag], some 1, fun g =>
      g.operands.head?.map fun file =>
        .similar file (g.value? "name") (g.float "threshold" 0.7)⟩,
    ⟨"duplicates",
      [thresholdFlag, fullFlag, ⟨"oracle", none, .value fun _ => true⟩,
        ⟨"limit", some 'l', .value isCount⟩],
      some 0, fun g =>
      some (.duplicates (g.float "threshold" 0.8) g.mode (g.value? "oracle")
        (g.count "limit" 20))⟩,
    ⟨"graph", [thresholdFlag, fullFlag], some 0, fun g =>
      some (.graph (g.float "threshold" 0.3) g.mode)⟩,
    ⟨"relations",
      [⟨"target", none, .value isCount⟩, ⟨"max", none, .value isCount⟩,
        ⟨"min-threshold", none, .value isFloat⟩, ⟨"max-threshold", none, .value isFloat⟩, fullFlag],
      some 0, fun g =>
      some (.relations { AdaptiveGoal.default with
        target := g.count "target" 200, most := g.count "max" 1000,
        minThreshold := g.float "min-threshold" 0.1, maxThreshold := g.float "max-threshold" 0.9,
        mode := g.mode })⟩,
    ⟨"stats", [], some 0, fun _ => some .statistics⟩,
    ⟨"clear", [], some 0, fun _ => some .clear⟩]

/-- Whether something can be asked for under a name. -/
def isCommandName (name : String) : Bool :=
  name = "help" || forms.any (·.name = name)

/-- What a form makes of the arguments after the name of its command. -/
def Form.read (f : Form) (outer : Given) (args : List String) : Except Refusal Invocation :=
  match Level.read ⟨f.flags ++ sharedFlags, .paths f.mostOperands⟩ .nothing args with
  | .error refusal => .error refusal
  | .ok (inner, _) =>
    match f.command? inner with
    | none => .error .misuse
    | some command =>
      .ok ⟨(inner.value? "db").or (outer.value? "db"), inner.has "json" || outer.has "json",
        command⟩

/-- What the arguments ask for. -/
def readArguments (args : List String) : Except Refusal Invocation :=
  match outerLevel.read .nothing args with
  | .error refusal => .error refusal
  | .ok (_, []) => .error .misuse
  | .ok (outer, name :: args) =>
    match forms.find? (·.name = name) with
    | some form => form.read outer args
    | none =>
      if name = "help" && args.length ≤ 1 && args.all isCommandName then .error .help
      else .error .misuse

end Lookalike.CommandLine
