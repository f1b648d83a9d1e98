import TaintSummary.CommandLine.Scan

/-!
# Help

The help texts. In short help every option has one line, with all descriptions in one column. In full help a description stands
below its option, and entries are a blank line apart.
-/

namespace TaintSummary.CommandLine

/-- What help says of an operand, an option or a command. -/
structure Entry where
  label : Text
  description : Text
  notes : List Text

namespace Opt

/-- What the option does. -/
def description : Opt → String
  | .kubeconfig => "Path to kubeconfig. Defaults to in-cluster config, then the standard kubeconfig"
  | .context => "Kubernetes context to use instead of the kubeconfig's current context"
  | .output => "Output format"
  | .noHeaders => "Omit column headers in output"
  | .verbose => "Enable verbose logging"
  | .help => "Print help"
  | .version => "Print version"
  | .ns => "Target a specific namespace, defaults to all namespaces"
  | .matching =>
    "Show resources with a match, in format Operator(key=value:effect) for tolerations or key=value:effect for taints"
  | .unmatched => "Show resources without a match, same format as --match"

/-- What else there is to know: the default and the possible values. -/
def notes : Opt → List Text
  | .output =>
    ["[default: ".toList ++ Format.table.name ++ "]".toList,
      "[possible values: ".toList ++ Text.join ", ".toList (Format.all.map Format.name) ++ "]".toList]
  | _ => []

/-- The names of the option and of its value. -/
def label (o : Opt) : Text :=
  (match o.short? with
    | some c => "  -".toList ++ [c] ++ ", ".toList
    | none => Text.spaces 6) ++
  "--".toList ++ o.long ++
  (match o.valueName? with
    | some name => " <".toList ++ name ++ ">".toList
    | none => [])

end Opt

namespace Place

/-- What the command does. -/
def about : Place → String
  | .main => "ttsum helps summarize tainted nodes and tolerating resources"
  | .taints => "Summarize taints for nodes, and whether they match a taint"
  | .tolerations => "Summarize tolerations for a resource type"

/-- An example of the command; the program has none, and no full help either. -/
def example? : Place → Option String
  | .main => none
  | .taints => some "For example: ttsum taints --match dedicated=gpu:NoSchedule"
  | .tolerations => some "For example: ttsum tolerations apps/v1 deployments --namespace kube-system"

/-- How the command is written. -/
def usage : Place → String
  | .main => "ttsum [OPTIONS] <COMMAND>"
  | .taints => "ttsum taints [OPTIONS]"
  | .tolerations => "ttsum tolerations [OPTIONS] <API_VERSION> <RESOURCE>"

/-- What help says of the operands. -/
def operandEntries (p : Place) : List Entry :=
  p.operands.map fun name =>
    { label := "  <".toList ++ name ++ ">".toList
      description :=
        if name = "API_VERSION".toList then "API version of the resource, e.g. apps/v1 or v1".toList
        else "Resource name, e.g. deployments or daemonsets".toList
      notes := [] }

/-- What help says of the help option: which other help there is. -/
def helpDescription (p : Place) (full : Bool) : Text :=
  Opt.help.description.toList ++
    (match p.example?, full with
      | none, _ => []
      | some _, true => " (see a summary with '-h')".toList
      | some _, false => " (see more with '--help')".toList)

/-- What help says of the options. -/
def optionEntries (p : Place) (full : Bool) : List Entry :=
  p.options.map fun o =>
    { label := o.label
      description := if o = .help then p.helpDescription full else o.description.toList
      notes := o.notes }

end Place

/-- What the command that shows help does. -/
def helpAbout : Text := "Print this message or the help of the given subcommand(s)".toList

/-- What help says of the commands. -/
def commandEntries : List Entry :=
  (Place.commands.map fun p => ⟨"  ".toList ++ p.name, p.about.toList, []⟩) ++ [⟨"  ".toList ++ helpCommand, helpAbout, []⟩]

/-- An entry on one line, its description in the column. -/
def Entry.shortLine (column : Nat) (e : Entry) : Text :=
  e.label ++ Text.spaces (column - e.label.length) ++ Text.join [' '] (e.description :: e.notes)

/-- Entries in short, a line each: their descriptions are two columns to the right of the longest label. -/
def shortLines (es : List Entry) : List Text :=
  es.map (Entry.shortLine ((es.map fun e => e.label.length).foldr max 0 + 2))

/-- An entry in full: below its label the description and, after a blank one, the notes. -/
def Entry.fullLines (e : Entry) : List Text :=
  e.label ::
    ((e.description :: if e.notes.isEmpty then [] else [] :: e.notes).map fun line => Text.spaces 10 ++ line)

/-- Groups of lines with blank lines between them. -/
def apart (groups : List (List Text)) : List Text := (groups.intersperse [[]]).flatten

/-- Entries under a heading; nothing without entries. -/
def sectionLines (full : Bool) (heading : String) (es : List Entry) : List (List Text) :=
  if es.isEmpty then []
  else [heading.toList :: (if full then apart (es.map Entry.fullLines) else shortLines es)]

/-- The help of the program or of a command. -/
def placeHelp (p : Place) (full : Bool) : List Text :=
  let full : Bool := full && p.example?.isSome
  apart (
    [[p.about.toList]] ++
    (if full then p.example?.toList.map fun e => [e.toList] else []) ++
    [["Usage: ".toList ++ p.usage.toList]] ++
    sectionLines full "Commands:" (if p = .main then commandEntries else []) ++
    sectionLines full "Arguments:" p.operandEntries ++
    sectionLines full "Options:" (p.optionEntries full))

/-- The help of the command that shows help. -/
def helpHelp : List Text :=
  apart [[helpAbout], ["Usage: ttsum help [COMMAND]...".toList],
    ["Arguments:".toList, "  [COMMAND]...  Print help for the subcommand(s)".toList]]

/-- The text of the help that is asked for. -/
def helpText (t : Topic) : Text :=
  (match t with
    | .place p full => placeHelp p full
    | .helpCommand => helpHelp).flatMap fun line => line ++ ['\n']

/-- The text that tells the version. -/
def versionText : Text := "ttsum 0.1.0\n".toList

end TaintSummary.CommandLine
