import TaintSummary.Report.Format

/-!
# Options

The options of the command line and the places where they may stand: before the command, or after one of the commands.
-/

namespace TaintSummary.CommandLine

/-- An option. -/
inductive Opt
  | kubeconfig
  | context
  | output
  | noHeaders
  | verbose
  | help
  | version
  | ns
  | matching
  | unmatched
  deriving DecidableEq

namespace Opt

/-- The long name, which stands after two hyphens. -/
def long : Opt → Text
  | .kubeconfig => "kubeconfig".toList
  | .context => "context".toList
  | .output => "output".toList
  | .noHeaders => "no-headers".toList
  | .verbose => "verbose".toList
  | .help => "help".toList
  | .version => "version".toList
  | .ns => "namespace".toList
  | .matching => "match".toList
  | .unmatched => "no-match".toList

/-- The short name, which stands after one hyphen. -/
def short? : Opt → Option Char
  | .output => some 'o'
  | .verbose => some 'v'
  | .help => some 'h'
  | .version => some 'V'
  | .ns => some 'n'
  | _ => none

/-- What the value of the option is called; options without a value are flags. -/
def valueName? : Opt → Option Text
  | .kubeconfig => some "PATH".toList
  | .context => some "CONTEXT".toList
  | .output => some "OUTPUT".toList
  | .ns => some "NAMESPACE".toList
  | .matching => some "SPEC".toList
  | .unmatched => some "SPEC".toList
  | _ => none

/-- The option has a value. -/
def takesValue (o : Opt) : Bool := o.valueName?.isSome

/-- The text is a value of the option. -/
def accepts (o : Opt) (value : Text) : Bool :=
  match o with
  | .output => (Format.ofName? value).isSome
  | .kubeconfig => value ≠ []
  | _ => true

end Opt

/-- Where arguments stand. -/
inductive Place
  /-- Before the command. -/
  | main
  /-- After the command `taints`. -/
  | taints
  /-- After the command `tolerations`. -/
  | tolerations
  deriving DecidableEq

namespace Place

/-- The options that may stand at the place, in the order in which help lists them. -/
def options : Place → List Opt
  | .main => [.kubeconfig, .context, .output, .noHeaders, .verbose, .help, .version]
  | .taints => [.matching, .unmatched, .kubeconfig, .context, .output, .noHeaders, .verbose, .help]
  | .tolerations =>
    [.ns, .matching, .kubeconfig, .unmatched, .context, .output, .noHeaders, .verbose, .help]

/-- The operands that stand at the place. -/
def operands : Place → List Text
  | .tolerations => ["API_VERSION".toList, "RESOURCE".toList]
  | _ => []

/-- The places after a command. -/
def commands : List Place := [.taints, .tolerations]

/-- The word for the place: the command's name. -/
def name : Place → Text
  | .main => "ttsum".toList
  | .taints => "taints".toList
  | .tolerations => "tolerations".toList

/-- The place after the command with the name. -/
def ofName? (text : Text) : Option Place := commands.find? fun p => p.name = text

/-- The option with the long name. -/
def long? (p : Place) (name : Text) : Option Opt := p.options.find? fun o => o.long = name

/-- The option with the short name. -/
def shortNamed? (p : Place) (c : Char) : Option Opt := p.options.find? fun o => o.short? = some c

end Place

/-- The command that shows help. -/
def helpCommand : Text := "help".toList

end TaintSummary.CommandLine
