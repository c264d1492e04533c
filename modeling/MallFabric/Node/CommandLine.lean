import MallFabric.Assoc

/-!
# The command line

A node is started in one of two roles.  Options stand before or after the
role; of an option that stands on both sides the one after the role counts.
-/

namespace MallFabric

/-- What a node serves. -/
inductive Role where
  | gateway
  | checkout
deriving DecidableEq, Repr, Inhabited

namespace Role

def name : Role -> String
  | gateway => "gateway"
  | checkout => "checkout"

def all : List Role := [gateway, checkout]

def ofName? (text : String) : Option Role := all.find? fun role => role.name = text

end Role

/-- Why a command line is not obeyed. -/
inductive CommandFault where
  /-- Help is asked for. -/
  | help
  /-- Nothing is asked for at all. -/
  | nothingAsked
  | missingRole
  | unknownRole
  | unknownArgument
  /-- An option without its value, or with an empty one that it does not take. -/
  | invalidValue
  /-- An option given twice. -/
  | conflict
  /-- A value for an option that takes none. -/
  | unneededValue
deriving DecidableEq, Repr, Inhabited

/-- An option with a value. -/
inductive CommandOption where
  | config
  | listen
deriving DecidableEq, Repr, Inhabited

namespace CommandOption

def name : CommandOption -> String
  | config => "config"
  | listen => "listen-addr"

/-- Whether the value may be empty. -/
def takesEmpty : CommandOption -> Bool
  | config => false
  | listen => true

end CommandOption

/-- An argument by its looks. -/
inductive Argument where
  /-- Two dashes alone: what follows is no option. -/
  | escape
  | long (name : String) (value : Option String)
  | short (letter : Char)
  | plain (text : String)
deriving DecidableEq, Repr, Inhabited

namespace Argument

def ofText (text : String) : Argument :=
  match text.toList with
  | ['-', '-'] => .escape
  | '-' :: '-' :: rest =>
      let name := String.ofList (rest.takeWhile (· ≠ '='))
      match rest.dropWhile (· ≠ '=') with
      | [] => .long name none
      | _ :: value => .long name (some (String.ofList value))
  | '-' :: letter :: _ => .short letter
  | _ => .plain text

end Argument

/-- The options of one level that have been read. -/
structure Options where
  values : Assoc CommandOption String
  /-- The option read last, which is not checked yet, and its value if it has
  come. -/
  pending : Option (CommandOption × Option String)
deriving Repr, Inhabited

namespace Options

def empty : Options := ⟨[], none⟩

/-- Give an option its value. -/
def give (options : Options) (option : CommandOption) (value : String) :
    Except CommandFault Options :=
  if options.values.contains option then .error .conflict
  else if value = "" ∧ !option.takesEmpty then .error .invalidValue
  else .ok { options with values := options.values.insert option value }

/-- Check the option that is still pending. -/
def resolve (options : Options) : Except CommandFault Options :=
  match options.pending with
  | none => .ok options
  | some (_, none) => .error .invalidValue
  | some (option, some value) => { options with pending := none }.give option value

/-- Whether the next plain argument is the value of an option. -/
def awaitsValue (options : Options) : Bool :=
  match options.pending with
  | some (_, none) => true
  | _ => false

/-- Read an argument that looks like an option, of those that are known here. -/
def read (known : List CommandOption) (options : Options) : Argument ->
    Except CommandFault Options
  | .long name value =>
      if name = "help" then
        if value.isSome then .error .unneededValue
        else match options.resolve with
          | .ok _ => .error .help
          | .error fault => .error fault
      else match known.find? fun option => option.name = name with
        | none => .error .unknownArgument
        | some option =>
            match options.resolve, value with
            | .error fault, _ => .error fault
            | .ok resolved, some content => resolved.give option content
            | .ok resolved, none => .ok { resolved with pending := some (option, none) }
  | .short letter =>
      if letter = 'h' then
        match options.resolve with
        | .ok _ => .error .help
        | .error fault => .error fault
      else .error .unknownArgument
  | .plain text =>
      match options.pending with
      | some (option, none) => .ok { options with pending := some (option, some text) }
      | _ => .error .unknownArgument
  | .escape => .ok options

/-- Read the arguments after the role. -/
def readRole (options : Options) : List String -> Except CommandFault Options
  | [] => options.resolve
  | text :: rest =>
      match Argument.ofText text with
      | .escape => if rest = [] then options.resolve else .error .unknownArgument
      | argument =>
          match options.read [.config, .listen] argument with
          | .error fault => .error fault
          | .ok next => readRole next rest

end Options

/-- What a command line asks for. -/
structure Command where
  role : Role
  listen : Option String
  config : Option String
deriving DecidableEq, Repr, Inhabited

namespace Command

/-- The answer to a question for help with commands. -/
def help : List String -> CommandFault
  | [] => .help
  | [name] => if name = "help" ∨ (Role.ofName? name).isSome then .help else .unknownRole
  | _ => .unknownRole

/-- The answer to an argument in the place of the role that is none.  After
two dashes not even a role is one. -/
def misplaced (escaped : Bool) (text : String) : CommandFault :=
  if escaped ∧ (text = "help" ∨ (Role.ofName? text).isSome) then .unknownArgument
  else .unknownRole

/-- What is wrong if the arguments end before a role is named. -/
def unnamed (options : Options) : CommandFault :=
  match options.resolve with
  | .error fault => fault
  | .ok resolved => if resolved.values = [] then .nothingAsked else .missingRole

/-- Read the arguments from the left. -/
def parseAfter (options : Options) : List String -> Except CommandFault Command
  | [] => .error (unnamed options)
  | text :: rest =>
      if options.awaitsValue then
        match Argument.ofText text with
        | .escape => .error (match rest with
            | [] => .invalidValue
            | next :: _ => misplaced true next)
        | argument =>
            match options.read [.config] argument with
            | .error fault => .error fault
            | .ok next => parseAfter next rest
      else if text = "help" then .error (help rest)
      else match Role.ofName? text with
        | some role =>
            match Options.readRole .empty rest with
            | .error fault => .error fault
            | .ok inner =>
                match options.resolve with
                | .error fault => .error fault
                | .ok outer =>
                    .ok
                      { role
                        listen := inner.values.find? .listen
                        config := inner.values.find? .config <|> outer.values.find? .config }
        | none =>
            match Argument.ofText text with
            | .escape =>
                match rest with
                | [] => .error (unnamed options)
                | next :: _ => .error (misplaced true next)
            | .plain _ => .error .unknownRole
            | argument =>
                match options.read [.config] argument with
                | .error fault => .error fault
                | .ok next => parseAfter next rest

/-- What the arguments ask for. -/
def parse (arguments : List String) : Except CommandFault Command :=
  parseAfter .empty arguments

end Command

end MallFabric
