import MeshTestbed.Plan.Basic

/-!
The arguments of the command line. Options may stand before the operation and after it;
those after it count. An option other than `--component` is given at most once on either side.
-/

namespace MeshTestbed

inductive Operation where
  | install
  | uninstall
  | plan
deriving DecidableEq

inductive OutputStyle where
  | text
  | json
deriving DecidableEq

inductive LogStyle where
  | pretty
  | json
deriving DecidableEq

structure Options where
  config : Option String := none
  parts : List Part := []
  kubeconfig : Option String := none
  output : Option OutputStyle := none
  logFormat : Option LogStyle := none

structure Invocation where
  operation : Operation
  config : String := "meshflow.yaml"
  parts : List Part := []
  kubeconfig : Option String := none
  output : OutputStyle := .text
  logFormat : LogStyle := .pretty
deriving DecidableEq

inductive Request where
  | invoke (i : Invocation)
  | help
  | version
  | misuse
deriving DecidableEq

namespace Operation

def all : List Operation := [install, uninstall, plan]

def text : Operation → String
  | install => "install"
  | uninstall => "uninstall"
  | plan => "plan"

def ofText? (s : String) : Option Operation := all.find? fun t => t.text == s

end Operation

namespace OutputStyle

def all : List OutputStyle := [text, json]

def word : OutputStyle → String
  | text => "text"
  | json => "json"

def ofWord? (s : String) : Option OutputStyle := all.find? fun f => f.word == s

end OutputStyle

namespace LogStyle

def all : List LogStyle := [pretty, json]

def word : LogStyle → String
  | pretty => "pretty"
  | json => "json"

def ofWord? (ignoreCase : Bool) (s : String) : Option LogStyle :=
  all.find? fun f => f.word == if ignoreCase then Part.lowered s else s

end LogStyle

inductive OptionName where
  | config
  | part
  | kubeconfig
  | output
  | logFormat
deriving DecidableEq

namespace OptionName

def all : List OptionName := [config, part, kubeconfig, output, logFormat]

def text : OptionName → String
  | config => "config"
  | part => "component"
  | kubeconfig => "kubeconfig"
  | output => "output"
  | logFormat => "log-format"

def ofText? (s : String) : Option OptionName := all.find? fun n => n.text == s

end OptionName

namespace Options

def path? (value : String) : Option String := if value.isEmpty then none else some value

def partList? (value : String) : Option (List Part) :=
  ((Text.splitWhere (· = ',') value.toList).map String.ofList).mapM (Part.ofFlag? false)

/-- Takes an option; fails if its value is none of its own or it is given twice. -/
def take? (name : OptionName) (value : String) (o : Options) : Option Options :=
  match name with
  | .config =>
    if o.config.isSome then none
    else (path? value).map fun path => { o with config := some path }
  | .part =>
    (partList? value).map fun cs => { o with parts := o.parts ++ cs }
  | .kubeconfig =>
    if o.kubeconfig.isSome then none
    else (path? value).map fun path => { o with kubeconfig := some path }
  | .output =>
    if o.output.isSome then none
    else (OutputStyle.ofWord? value).map fun f => { o with output := some f }
  | .logFormat =>
    if o.logFormat.isSome then none
    else (LogStyle.ofWord? false value).map fun f => { o with logFormat := some f }

def withDefaults (o defaults : Options) : Options :=
  { config := o.config.or defaults.config
    parts := if o.parts.isEmpty then defaults.parts else o.parts
    kubeconfig := o.kubeconfig.or defaults.kubeconfig
    output := o.output.or defaults.output
    logFormat := o.logFormat.or defaults.logFormat }

def invocation (operation : Operation) (o : Options) : Invocation :=
  { operation
    config := o.config.getD "meshflow.yaml"
    parts := o.parts
    kubeconfig := o.kubeconfig
    output := o.output.getD .text
    logFormat := o.logFormat.getD .pretty }

end Options

structure ArgumentState where
  operation : Option Operation := none
  before : Options := {}
  after : Options := {}

/-- One argument by its form. A lone dash is a word. -/
inductive Argument where
  | endOfOptions
  | long (name : String) (value : Option String)
  | short (letter : Char) (rest : List Char)
  | word (s : String)

def Argument.ofText (s : String) : Argument :=
  match s.toList with
  | ['-', '-'] => .endOfOptions
  | '-' :: '-' :: rest =>
    let name := rest.takeWhile (· ≠ '=')
    .long (String.ofList name) <|
      if name.length < rest.length then some (String.ofList (rest.drop (name.length + 1))) else none
  | '-' :: letter :: rest => .short letter rest
  | _ => .word s

namespace ArgumentState

def take? (name : OptionName) (value : String) (s : ArgumentState) : Option ArgumentState :=
  match s.operation with
  | none => (s.before.take? name value).map fun o => { s with before := o }
  | some _ => (s.after.take? name value).map fun o => { s with after := o }

def finish (s : ArgumentState) : Request :=
  match s.operation with
  | none => .misuse
  | some operation => .invoke ((s.after.withDefaults s.before).invocation operation)

def helpOn : List String → Request
  | [] => .help
  | [name] => if name = "help" || (Operation.ofText? name).isSome then .help else .misuse
  | _ => .misuse

/-- Reads the arguments that are left. `awaited` is an option whose value must come next. -/
def read (s : ArgumentState) (awaited : Option OptionName) : List String → Request
  | [] => if awaited.isSome then .misuse else s.finish
  | arg :: rest =>
    let taking (name : OptionName) : Option String → Request
      | none => s.read (some name) rest
      | some value =>
        match s.take? name value with
        | some s => s.read none rest
        | none => .misuse
    match awaited, Argument.ofText arg with
    | some name, .word value => taking name (some value)
    | some _, _ => .misuse
    | none, .endOfOptions => if rest.isEmpty then s.finish else .misuse
    | none, .long name value =>
      match OptionName.ofText? name with
      | some name => taking name value
      | none =>
        if value.isSome then .misuse
        else if name = "help" then .help
        else if name = "version" ∧ s.operation.isNone then .version
        else .misuse
    | none, .short 'c' [] => taking .config none
    | none, .short 'c' ('=' :: value) => taking .config (some (String.ofList value))
    | none, .short 'c' value => taking .config (some (String.ofList value))
    | none, .short 'h' _ => .help
    | none, .short 'V' _ => if s.operation.isNone then .version else .misuse
    | none, .short _ _ => .misuse
    | none, .word word =>
      match s.operation with
      | some _ => .misuse
      | none =>
        if word = "help" then helpOn rest
        else match Operation.ofText? word with
          | some operation => { s with operation := some operation }.read none rest
          | none => .misuse

end ArgumentState

def Request.ofArguments (args : List String) : Request := ArgumentState.read {} none args

end MeshTestbed
