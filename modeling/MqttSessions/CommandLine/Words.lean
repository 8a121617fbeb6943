/-! # The words of a command line

The words after a program's name are options and operands. An option has a long name and perhaps a
letter; its value stands in the same word or in the next one. Letters may share a word. After two
dashes all words are operands.

Main definition: **`CommandLine.scan`**, the items that some words stand for, up to the first
fault. -/

namespace MqttSessions

namespace CommandLine

/-- An option that a command knows: its names, whether it takes a value and which values it accepts,
and whether it may be given more than once. -/
structure Switch where
  name : String
  letter : Option Char := none
  takesValue : Bool := true
  accepts : String → Bool := fun _ => true
  repeats : Bool := false

/-- What words stand for: an option, with its value if it takes one, or an operand. -/
inductive Item where
  | option (name : String) (value : Option String)
  | operand (word : String)
  deriving DecidableEq, Repr

/-- Where the items of some words end: at the end of the words, before words that were not looked at
any more, or at a word that is a fault. -/
inductive Remainder where
  | finished
  | words (words : List String)
  | fault
  deriving DecidableEq, Repr

/-- Whether a word starts like an option. -/
def looksLikeOption (word : String) : Bool := word.startsWith "-" && word ≠ "-"

/-- The option of a letter. -/
def ofLetter? (switches : List Switch) (c : Char) : Option Switch :=
  switches.find? fun switch => switch.letter == some c

/-- The option of a long name. -/
def ofName? (switches : List Switch) (name : String) : Option Switch :=
  switches.find? fun switch => switch.name == name

/-- What the letters of a word stand for: the items, and the option that still wants its value from
the next word; `none` for a letter that no option has. -/
def letters (switches : List Switch) : List Char → List Item × Option (Option Switch)
  | [] => ([], some none)
  | c :: rest =>
    match ofLetter? switches c with
    | none => ([], none)
    | some switch =>
      if switch.takesValue then
        match rest with
        | [] => ([], some (some switch))
        | '=' :: value => ([.option switch.name (some (String.ofList value))], some none)
        | value => ([.option switch.name (some (String.ofList value))], some none)
      else
        let (items, pending) := letters switches rest
        (.option switch.name none :: items, pending)

/-- What a word that starts with two dashes stands for, without these. -/
def longWord (switches : List Switch) (word : String) : List Item × Option (Option Switch) :=
  let (name, value) := word.toList.span (· != '=')
  match ofName? switches (String.ofList name) with
  | none => ([], none)
  | some switch =>
    match value with
    | [] => if switch.takesValue then ([], some (some switch)) else ([.option switch.name none], some none)
    | _ :: value =>
      if switch.takesValue then ([.option switch.name (some (String.ofList value))], some none)
      else ([], none)

/-- What a word that starts like an option stands for. -/
def optionWord (switches : List Switch) (word : String) : List Item × Option (Option Switch) :=
  match word.toList with
  | '-' :: '-' :: rest => longWord switches (String.ofList rest)
  | '-' :: rest => letters switches rest
  | _ => ([], none)

/-- The items that some words stand for. If `stops` is set they end at the first operand, and a
command that has operands of its own follows; `pending` is an option that wants its value. -/
def scan (switches : List Switch) (stops : Bool) (pending : Option Switch) :
    List String → List Item × Remainder
  | [] => ([], if pending.isSome then .fault else .finished)
  | word :: rest =>
    match pending with
    | some switch =>
      if looksLikeOption word then ([], .fault)
      else
        let (items, left) := scan switches stops none rest
        (.option switch.name (some word) :: items, left)
    | none =>
      if word = "--" then
        if stops then ([], .fault) else (rest.map .operand, .finished)
      else if looksLikeOption word then
        match optionWord switches word with
        | (items, none) => (items, .fault)
        | (items, some pending) =>
          let (more, left) := scan switches stops pending rest
          (items ++ more, left)
      else if stops then ([], .words (word :: rest))
      else
        let (items, left) := scan switches stops none rest
        (.operand word :: items, left)

end CommandLine

end MqttSessions
