import TaintSummary.Proofs.CommandLine.Accepted

/-!
# The arrangement of a command line

The options and operands of a command line may stand in any order, and an option may be written in several ways. An `Item` is an
option with its value, or an operand; `Arranges` tells the arguments as which items may be written, in the order in which they stand.
However the items are arranged, the command line is accepted and the settings are what the items say (`settings_of_arranges`).
-/

namespace TaintSummary.CommandLine

/-- What stands on a command line: an option with its value, which is empty for a flag, or an operand. -/
inductive Item
  | option (o : Opt) (value : Text)
  | operand (text : Text)
  deriving DecidableEq

namespace Item

def opt? : Item → Option Opt
  | .option o _ => some o
  | .operand _ => none

def operand? : Item → Option Text
  | .option .. => none
  | .operand text => some text

end Item

/-- The text does not look like an option. -/
def Plain (text : Text) : Prop := text.head? ≠ some '-'

instance (text : Text) : Decidable (Plain text) := inferInstanceAs (Decidable (text.head? ≠ some '-'))

/-- The arguments as which an item may be written: an option under its long name or its short one, with its value in the same argument
or in the next one, which must then not look like an option. -/
inductive Written : Item → List Text → Prop
  | assignment {o : Opt} {value : Text} (takes : o.takesValue = true) :
      Written (.option o value) ['-' :: '-' :: (o.long ++ '=' :: value)]
  | name {o : Opt} {value : Text} (takes : o.takesValue = true) (plain : Plain value) :
      Written (.option o value) ['-' :: '-' :: o.long, value]
  | flag {o : Opt} (takes : o.takesValue = false) : Written (.option o []) ['-' :: '-' :: o.long]
  | shortAssignment {o : Opt} {c : Char} {value : Text} (takes : o.takesValue = true) (short : o.short? = some c) :
      Written (.option o value) ['-' :: c :: '=' :: value]
  | shortAttached {o : Opt} {c d : Char} {value : Text} (takes : o.takesValue = true) (short : o.short? = some c) (equals : d ≠ '=') :
      Written (.option o (d :: value)) ['-' :: c :: d :: value]
  | shortName {o : Opt} {c : Char} {value : Text} (takes : o.takesValue = true) (short : o.short? = some c) (plain : Plain value) :
      Written (.option o value) [['-', c], value]
  | shortFlag {o : Opt} {c : Char} (takes : o.takesValue = false) (short : o.short? = some c) : Written (.option o []) [['-', c]]
  | operand {text : Text} (plain : Plain text) : Written (.operand text) [text]

/-- The arguments are those of the items, one item after the other. -/
inductive Arranges : List Item → List Text → Prop
  | nil : Arranges [] []
  | cons {item : Item} {items : List Item} {args rest : List Text} (first : Written item args) (others : Arranges items rest) :
      Arranges (item :: items) (args ++ rest)

/-- The items may stand together at the place: no option stands there twice, and each accepts its value; there are not more operands
than the place has. -/
structure Orderly (p : Place) (items : List Item) : Prop where
  allowed : ∀ {o value}, .option o value ∈ items → o ∈ p.options ∧ o ≠ .help ∧ o ≠ .version ∧ o.accepts value = true
  distinct : (items.filterMap Item.opt?).Nodup
  room : (items.filterMap Item.operand?).length ≤ p.operands.length

namespace Scan

section Step

variable {p : Place} {s : Scan} {o : Opt} {c : Char} (hyphens : s.trailing = false) (hmem : o ∈ p.options)

/-- Every option has a long name, so that two hyphens alone are none. -/
theorem long_ne_nil (o : Opt) : o.long ≠ [] := by
  cases o <;> decide +kernel

include hyphens hmem in
/-- An option with a value waits for it when its name is an argument of its own. -/
theorem step_name (htakes : o.takesValue = true) : s.step p ('-' :: '-' :: o.long) = s.await o := by
  rw [step_long hyphens p (long_ne_nil o)]
  simp only [long, Text.cut?_eq_none_iff.mpr (equals_notMem_long o), long?_of_mem_options hmem, htakes, if_true]

include hyphens hmem in
/-- A flag is put down by its name. -/
theorem step_flag (htakes : o.takesValue = false) : s.step p ('-' :: '-' :: o.long) = s.flag p o true := by
  rw [step_long hyphens p (long_ne_nil o)]
  simp only [long, Text.cut?_eq_none_iff.mpr (equals_notMem_long o), long?_of_mem_options hmem, htakes, if_neg Bool.false_ne_true]

/-- Each option of a place that has a short name is found by it. -/
theorem shortNamed?_of_mem_options (hmem : o ∈ p.options) (hshort : o.short? = some c) : p.shortNamed? c = some o := by
  cases o <;> cases hshort <;> cases p <;> first | decide +kernel | exact absurd hmem (by decide)

/-- No short name is a hyphen, so that an option in short is not taken for one in full. -/
theorem ne_hyphen_of_short (hshort : o.short? = some c) : c ≠ '-' := by
  cases o <;> cases hshort <;> decide

include hyphens in
/-- An argument with one hyphen is a cluster, whichever short name it begins with. -/
theorem step_short (hshort : o.short? = some c) (rest : Text) : s.step p ('-' :: c :: rest) = s.cluster p (c :: rest) := by
  have hc := ne_hyphen_of_short hshort
  simp [step, hyphens, hc]

include hyphens in
/-- What does not look like an option is a value or an operand. -/
theorem step_plain {text : Text} (hplain : Plain text) : s.step p text = s.word p text := by
  unfold step
  rw [hyphens]
  simp only [Bool.false_eq_true, if_false]
  split
  · exact absurd rfl hplain
  · exact absurd rfl hplain
  · exact absurd rfl hplain
  · rfl

/-- A flag is put down like an option whose value is empty, unless it asks for help or the version. -/
theorem flag_eq_assign (hhelp : o ≠ .help) (hversion : o ≠ .version) (full : Bool) : s.flag p o full = s.assign o [] := by
  cases o with
  | help => exact absurd rfl hhelp
  | version => exact absurd rfl hversion
  | _ => rfl

end Step

/-- An option with its value is one argument that puts it down, or one that opens it and then the value. -/
theorem written_option_cases {p : Place} {o : Opt} {value : Text} {args : List Text} (hw : Written (.option o value) args)
    (hmem : o ∈ p.options) (hhelp : o ≠ .help) (hversion : o ≠ .version) :
    ∃ arg, arg.head? = some '-' ∧
      ((args = [arg] ∧ ∀ s : Scan, s.trailing = false → s.step p arg = s.assign o value) ∨
        (args = [arg, value] ∧ Plain value ∧ ∀ s : Scan, s.trailing = false → s.step p arg = s.await o)) := by
  cases hw with
  | assignment takes => exact ⟨_, rfl, Or.inl ⟨rfl, fun s hyphens => step_assignment hyphens hmem takes value⟩⟩
  | name takes plain => exact ⟨_, rfl, Or.inr ⟨rfl, plain, fun s hyphens => step_name hyphens hmem takes⟩⟩
  | flag takes =>
    exact ⟨_, rfl, Or.inl ⟨rfl, fun s hyphens => (step_flag hyphens hmem takes).trans (flag_eq_assign hhelp hversion true)⟩⟩
  | shortAssignment takes short =>
    refine ⟨_, rfl, Or.inl ⟨rfl, fun s hyphens => ?_⟩⟩
    simp only [step_short hyphens short, cluster, shortNamed?_of_mem_options hmem short, takes, if_true]
  | shortAttached takes short equals =>
    refine ⟨_, rfl, Or.inl ⟨rfl, fun s hyphens => ?_⟩⟩
    simp [step_short hyphens short, cluster, shortNamed?_of_mem_options hmem short, takes, equals]
  | shortName takes short plain =>
    refine ⟨_, rfl, Or.inr ⟨rfl, plain, fun s hyphens => ?_⟩⟩
    simp only [step_short hyphens short, cluster, shortNamed?_of_mem_options hmem short, takes, if_true]
  | shortFlag takes short =>
    refine ⟨_, rfl, Or.inl ⟨rfl, fun s hyphens => ?_⟩⟩
    rw [step_short hyphens short, cluster, shortNamed?_of_mem_options hmem short]
    simp only [takes, if_neg Bool.false_ne_true, flag_eq_assign hhelp hversion]
    cases s.assign o [] <;> rfl

/-- The scan `s` is the scan `c`, with the last option perhaps still open, and options may follow. -/
structure Opens (s c : Scan) : Prop where
  due : s.isAwaiting = false
  hyphens : s.trailing = false
  close : s.close = .ok c

theorem opens_empty : Opens .empty .empty := ⟨rfl, rfl, rfl⟩

/-- Options may follow a scan without an open option, as long as no two hyphens were met. -/
theorem opens_self {c : Scan} (hpending : c.pending = none) (hyphens : c.trailing = false) : Opens c c :=
  ⟨by rw [isAwaiting, hpending], hyphens, close_of_pending hpending⟩

section Opens

variable {s c d : Scan} {o : Opt} {value : Text} (h : Opens s c)

include h in
/-- Once the last option is closed none is open. -/
theorem Opens.pending_eq_none : c.pending = none := (close_eq_ok h.close).1

include h in
/-- Closing an option does not end the options. -/
theorem Opens.trailing_eq_false : c.trailing = false := (close_eq_ok h.close).2.1.trans h.hyphens

include h in
/-- An option with its value in the same argument is put down after the open one is closed. -/
theorem Opens.assign (hput : c.put o value = .ok d) : s.assign o value = .ok d := by
  rw [Scan.assign, h.close]
  exact hput

include h in
/-- An option without its value is open after the open one is closed. -/
theorem Opens.await (o : Opt) : s.await o = .ok { c with pending := some (o, none) } := by
  rw [Scan.await, h.close]
  rfl

include h in
/-- After an option is put down, options may follow as before. -/
theorem Opens.of_put (hput : c.put o value = .ok d) : Opens d d := by
  obtain ⟨-, -, rfl⟩ := put_eq_ok_iff.mp hput
  exact opens_self h.pending_eq_none h.trailing_eq_false

include h in
/-- An option that has its value is put down when it is closed. -/
theorem Opens.of_pending (hput : c.put o value = .ok d) : Opens { c with pending := some (o, some value) } d := by
  have hclosed : ({ c with pending := none } : Scan) = c := by
    rw [← h.pending_eq_none]
  refine ⟨rfl, h.trailing_eq_false, ?_⟩
  simp only [Scan.close, hclosed, hput]

end Opens

/-- The item is found. -/
def add (c : Scan) : Item → Scan
  | .option o value => { c with options := c.options ++ [(o, value)] }
  | .operand text => { c with operands := c.operands ++ [text] }

/-- There is room for the item. -/
inductive Fits (p : Place) (c : Scan) : Item → Prop
  | option {o : Opt} {value : Text} (mem : o ∈ p.options) (help : o ≠ .help) (version : o ≠ .version)
      (accepts : o.accepts value = true) (absent : c.has o = false) : Fits p c (.option o value)
  | operand {text : Text} (room : c.operands.length < p.operands.length) : Fits p c (.operand text)

/-- The function takes one argument after the other by a step of the scan: an option, a value that is due and, where the place has
operands, any argument. -/
def Walks {α : Type} (p : Place) (walk : Scan → List Text → Except Stop α) : Prop :=
  ∀ s arg rest, (s.isAwaiting = true ∨ arg.head? = some '-' ∨ p.operands ≠ []) →
    walk s (arg :: rest) = (s.step p arg).bind fun s => walk s rest

/-- The arguments of a command are taken one by one. -/
theorem walks_all (p : Place) : Walks p (all p) := fun _ _ _ _ => rfl

/-- The arguments before the command are taken one by one as long as they are options and their values: no command begins with a
hyphen. -/
theorem walks_main : Walks .main main := by
  intro s arg rest h
  rw [main]
  by_cases hbefore : (s.trailing || s.isAwaiting) = true
  · rw [if_pos hbefore]
  · have hhead : arg.head? = some '-' := by
      rcases h with hawaiting | hhead | hoperands
      · exact absurd (by rw [hawaiting, Bool.or_true]) hbefore
      · exact hhead
      · exact absurd rfl hoperands
    -- no command begins with a hyphen
    have hhelp : arg ≠ helpCommand := by
      rintro rfl
      exact absurd hhead (by decide)
    have hname : Place.ofName? arg = none := by
      refine List.find?_eq_none.mpr fun p hp => ?_
      simp only [Place.commands, List.mem_cons, List.not_mem_nil, or_false] at hp
      rcases hp with rfl | rfl <;> rw [decide_eq_true_iff] <;> rintro rfl <;> exact absurd hhead (by decide)
    rw [if_neg hbefore, if_neg hhelp, hname]

section Walks

variable {α : Type} {p : Place} {walk : Scan → List Text → Except Stop α} (hwalk : Walks p walk)

include hwalk in
/-- However an option is written, it is put down. -/
theorem Walks.option {o : Opt} {value : Text} {args : List Text} {s c d : Scan} (hw : Written (.option o value) args)
    (hs : Opens s c) (hmem : o ∈ p.options) (hhelp : o ≠ .help) (hversion : o ≠ .version) (hput : c.put o value = .ok d) :
    ∃ s', Opens s' d ∧ ∀ rest, walk s (args ++ rest) = walk s' rest := by
  obtain ⟨arg, hhead, ⟨rfl, hstep⟩ | ⟨rfl, hplain, hstep⟩⟩ := written_option_cases hw hmem hhelp hversion
  · refine ⟨d, hs.of_put hput, fun rest => ?_⟩
    rw [List.singleton_append, hwalk s arg rest (Or.inr (Or.inl hhead)), hstep s hs.hyphens, hs.assign hput]
    rfl
  · refine ⟨{ c with pending := some (o, some value) }, hs.of_pending hput, fun rest => ?_⟩
    have hyphens : ({ c with pending := some (o, none) } : Scan).trailing = false := hs.trailing_eq_false
    rw [List.cons_append, List.singleton_append, hwalk s arg _ (Or.inr (Or.inl hhead)), hstep s hs.hyphens, hs.await]
    simp only [Except.bind]
    rw [hwalk _ value rest (Or.inl rfl), step_plain hyphens hplain]
    rfl

include hwalk in
/-- An argument that does not look like an option is found as an operand, where there is room for one. -/
theorem Walks.operand {text : Text} {s c : Scan} (hplain : Plain text) (hs : Opens s c)
    (hroom : c.operands.length < p.operands.length) (rest : List Text) :
    walk s (text :: rest) = walk (c.add (.operand text)) rest := by
  have hplace : p.operands ≠ [] := List.ne_nil_of_length_pos (Nat.zero_lt_of_lt hroom)
  rw [hwalk s text rest (Or.inr (Or.inr hplace)), step_plain hs.hyphens hplain, word_of_not_isAwaiting hs.due, Scan.operand,
    if_pos ((close_eq_ok hs.close).2.2 ▸ hroom), hs.close]
  rfl

include hwalk in
/-- However an item is written, it is found. -/
theorem Walks.written {item : Item} {args : List Text} {s c : Scan} (hw : Written item args) (hs : Opens s c)
    (hfits : Fits p c item) : ∃ s', Opens s' (c.add item) ∧ ∀ rest, walk s (args ++ rest) = walk s' rest := by
  cases hfits with
  | option mem help version accepts absent =>
    exact hwalk.option hw hs mem help version (put_eq_ok_iff.mpr ⟨absent, accepts, rfl⟩)
  | operand room =>
    cases hw with
    | operand plain => exact ⟨_, opens_self hs.pending_eq_none hs.trailing_eq_false, hwalk.operand plain hs room⟩

end Walks

/-- The scan `r` has the items besides what the scan `c` has. -/
structure Gains (c : Scan) (items : List Item) (r : Scan) : Prop where
  value? : ∀ o value, r.value? o = some value ↔ c.value? o = some value ∨ .option o value ∈ items
  operands : r.operands = c.operands ++ items.filterMap Item.operand?

/-- An item for which there is room is found, and nothing else is found with it. -/
theorem Fits.gains {p : Place} {c : Scan} {item : Item} (h : Fits p c item) : Gains c [item] (c.add item) := by
  constructor
  case value? =>
    intro x v
    cases h with
    | @option o value mem help version accepts absent =>
      have hnone : c.value? o = none := has_eq_false_iff.mp absent
      rw [add, value?_append, List.mem_singleton, Item.option.injEq]
      by_cases ho : o = x
      · subst ho
        simp [hnone, eq_comm]
      · simp [ho, Ne.symm ho]
    | operand room => exact ⟨Or.inl, fun h => h.resolve_right (by simp)⟩
  case operands =>
    cases h with
    | option => exact (List.append_nil _).symm
    | operand => rfl

/-- What is found of items one after the other is found of all of them. -/
theorem Gains.append {c d r : Scan} {items more : List Item} (h : Gains c items d) (hmore : Gains d more r) :
    Gains c (items ++ more) r := by
  constructor
  case value? =>
    intro o value
    rw [hmore.value?, h.value?, List.mem_append, or_assoc]
  case operands => rw [hmore.operands, h.operands, List.filterMap_append, List.append_assoc]

/-- The scan has the options that it had before, and those among the items. -/
theorem Gains.has_iff {c r : Scan} {items : List Item} (h : Gains c items r) (o : Opt) :
    r.has o = true ↔ c.has o = true ∨ ∃ value, .option o value ∈ items := by
  simp only [Scan.has, Option.isSome_iff_exists, h.value?, exists_or]

/-- The items may follow the scan. -/
structure Follows (p : Place) (c : Scan) (items : List Item) : Prop where
  orderly : Orderly p items
  absent : ∀ {o value}, .option o value ∈ items → c.has o = false
  room : c.operands.length + (items.filterMap Item.operand?).length ≤ p.operands.length

/-- Items that may stand together may follow the scan of no arguments. -/
theorem follows_empty {p : Place} {items : List Item} (h : Orderly p items) : Follows p .empty items :=
  ⟨h, fun _ => rfl, (Nat.zero_add _).symm ▸ h.room⟩

/-- There is room for the first of items that may follow. -/
theorem Follows.fits {p : Place} {c : Scan} {item : Item} {items : List Item} (h : Follows p c (item :: items)) : Fits p c item := by
  cases item with
  | option o value =>
    obtain ⟨hmem, hhelp, hversion, haccepts⟩ := h.orderly.allowed List.mem_cons_self
    exact .option hmem hhelp hversion haccepts (h.absent List.mem_cons_self)
  | operand text =>
    have hroom := h.room
    simp only [List.filterMap_cons, Item.operand?, List.length_cons] at hroom
    exact .operand (by omega)

/-- Once the first item is found the others may follow, since no option stands among them twice. -/
theorem Follows.tail {p : Place} {c d : Scan} {item : Item} {items : List Item} (h : Follows p c (item :: items))
    (hgains : Gains c [item] d) : Follows p d items := by
  have hdistinct := h.orderly.distinct
  have hroom := h.room
  constructor
  case orderly =>
    constructor
    case allowed => exact fun hmem => h.orderly.allowed (List.mem_cons_of_mem _ hmem)
    case distinct => exact hdistinct.sublist ((List.sublist_cons_self item items).filterMap _)
    case room => exact Nat.le_trans ((List.sublist_cons_self item items).filterMap Item.operand?).length_le h.orderly.room
  case absent =>
    intro o value hmem
    refine Bool.eq_false_iff.mpr fun hhas => ?_
    rcases (hgains.has_iff o).mp hhas with hhas | ⟨v, hitem⟩
    · rw [h.absent (List.mem_cons_of_mem _ hmem)] at hhas
      cases hhas
    · -- the option would stand there twice
      obtain rfl := List.mem_singleton.mp hitem
      have hnotMem := (List.nodup_cons.mp hdistinct).1
      exact hnotMem (List.mem_filterMap.mpr ⟨_, hmem, rfl⟩)
  case room =>
    rw [hgains.operands, List.length_append]
    rw [← List.singleton_append, List.filterMap_append, List.length_append] at hroom
    omega

/-- However the items are written and arranged, they are found, and nothing else is. -/
theorem Walks.arranges {α : Type} {p : Place} {walk : Scan → List Text → Except Stop α} (hwalk : Walks p walk) {items : List Item}
    {args : List Text} {s c : Scan} (h : Arranges items args) (hs : Opens s c) (hfollows : Follows p c items) :
    ∃ s' r, Opens s' r ∧ Gains c items r ∧ ∀ rest, walk s (args ++ rest) = walk s' rest := by
  induction h generalizing s c with
  | nil => exact ⟨s, c, hs, ⟨fun o value => by simp, (List.append_nil _).symm⟩, fun _ => rfl⟩
  | @cons item items args more first others ih =>
    obtain ⟨s₁, hs₁, hfirst⟩ := hwalk.written first hs hfollows.fits
    have hgains := hfollows.fits.gains
    obtain ⟨s', r, hs', hothers, hrest⟩ := ih hs₁ (hfollows.tail hgains)
    refine ⟨s', r, hs', hgains.append hothers, fun rest => ?_⟩
    rw [List.append_assoc, hfirst, hrest]

/-- The name of a command ends the scan of the arguments before it. -/
theorem main_name {p : Place} (hp : p ∈ Place.commands) {s : Scan} (due : s.isAwaiting = false) (hyphens : s.trailing = false)
    (rest : List Text) : main s (p.name :: rest) = .ok (s, some (p, rest)) := by
  simp only [Place.commands, List.mem_cons, List.not_mem_nil, or_false] at hp
  rw [main, due, hyphens]
  rcases hp with rfl | rfl <;> rfl

end Scan

section Settings

variable {p : Place} {before after : List Item}

/-- The option has the value after the command, or before it when it does not stand after it. -/
def Assigns (before after : List Item) (o : Opt) (value : Text) : Prop :=
  .option o value ∈ after ∨ (∀ v, .option o v ∉ after) ∧ .option o value ∈ before

/-- The settings are what the items before the command and those after it say. -/
structure Assigned (p : Place) (before after : List Item) (s : Settings) : Prop where
  taints : p = .taints → s.command = .taints
  tolerations : ∀ apiVersion name, p = .tolerations → after.filterMap Item.operand? = [apiVersion, name] →
    s.command = .tolerations apiVersion name
  filter : ∀ expression selection,
    s.filter = some ⟨expression, selection⟩ ↔ expression ≠ [] ∧ .option (selector selection) expression ∈ after
  ns : ∀ t, s.ns = some t ↔ t ≠ [] ∧ .option .ns t ∈ after
  kubeconfig : ∀ t, s.kubeconfig = some t ↔ Assigns before after .kubeconfig t
  context : ∀ t, s.context = some t ↔ Assigns before after .context t
  format : ∀ f, Assigns before after .output f.name → s.format = f
  table : (∀ t, ¬Assigns before after .output t) → s.format = .table
  noHeaders : s.noHeaders = true ↔ ∃ t, .option .noHeaders t ∈ before ++ after
  verbose : s.verbose = true ↔ ∃ t, .option .verbose t ∈ before ++ after

/-- The value of an option is the one with which it stands among the items. -/
theorem Scan.Gains.value?_iff {items : List Item} {r : Scan} (h : Gains .empty items r) (o : Opt) (value : Text) :
    r.value? o = some value ↔ .option o value ∈ items := by
  simpa [Scan.value?, Scan.empty] using h.value? o value

variable {opts found : Scan} (hbefore : Scan.Gains .empty before opts) (hafter : Scan.Gains .empty after found)

include hbefore hafter in
/-- A value after the command comes before one that stands before it. -/
theorem value?_or_eq_some_iff (o : Opt) (value : Text) :
    (found.value? o).or (opts.value? o) = some value ↔ Assigns before after o value := by
  rw [Option.or_eq_some_iff, hafter.value?_iff, hbefore.value?_iff, Option.eq_none_iff_forall_ne_some, Assigns]
  simp only [ne_eq, hafter.value?_iff]

include hbefore hafter in
/-- A flag is set on either side of the command. -/
theorem has_or_iff (o : Opt) : (found.has o || opts.has o) = true ↔ ∃ value, .option o value ∈ before ++ after := by
  rw [Bool.or_eq_true, Scan.has, Scan.has, Option.isSome_iff_exists, Option.isSome_iff_exists]
  simp only [hafter.value?_iff, hbefore.value?_iff, List.mem_append, exists_or, or_comm]

include hbefore hafter in
/-- The settings that are made of the items as they are found are what the items say. -/
theorem exists_assigned (horderly : Orderly p after) (hcomplete : p.operands.length ≤ (after.filterMap Item.operand?).length)
    (hone : ∀ {e e'}, .option .matching e ∈ after → .option .unmatched e' ∉ after) :
    ∃ s, Settings.ofArguments (combine p opts found) = .ok s ∧ Assigned p before after s := by
  have hselectors : found.value? .matching = none ∨ found.value? .unmatched = none := by
    cases hmatching : found.value? .matching with
    | none => exact Or.inl rfl
    | some e =>
      refine Or.inr (Option.eq_none_iff_forall_ne_some.mpr fun e' hunmatched => ?_)
      exact hone ((hafter.value?_iff _ _).mp hmatching) ((hafter.value?_iff _ _).mp hunmatched)
  obtain ⟨filter, hfilter, hexpression⟩ := Filter.exists_ofSelectors (s := (combine p opts found).selectors) hselectors
  refine ⟨_, by rw [Settings.ofArguments, hfilter]; rfl, ?_⟩
  constructor
  case taints =>
    rintro rfl
    rfl
  case tolerations =>
    rintro apiVersion name rfl hoperands
    have hfound : found.operands = [apiVersion, name] := hafter.operands.trans hoperands
    simp only [combine, hfound]
  case filter =>
    intro expression selection
    rw [hexpression, ← hafter.value?_iff]
    cases selection <;> rfl
  case ns =>
    intro t
    -- a command without operands has no namespace
    have hnone : p ≠ .tolerations → .option .ns t ∉ after := fun hp hmem =>
      absurd (horderly.allowed hmem).1 (by cases p <;> first | decide | exact absurd rfl hp)
    cases p with
    | main => exact iff_of_false (Option.some_ne_none t).symm fun h => hnone (by decide) h.2
    | taints => exact iff_of_false (Option.some_ne_none t).symm fun h => hnone (by decide) h.2
    | tolerations =>
      have hlength : (after.filterMap Item.operand?).length = 2 := Nat.le_antisymm horderly.room hcomplete
      obtain ⟨apiVersion, name, hoperands⟩ := List.length_eq_two.mp hlength
      have hfound : found.operands = [apiVersion, name] := hafter.operands.trans hoperands
      simp only [combine, hfound, Settings.nsOf, nonempty?_eq_some_iff, hafter.value?_iff]
  case kubeconfig => exact value?_or_eq_some_iff hbefore hafter .kubeconfig
  case context => exact value?_or_eq_some_iff hbefore hafter .context
  case format =>
    intro f hf
    have hname : Format.ofName? f.name = some f := by cases f <;> decide
    simp only [combine, (value?_or_eq_some_iff hbefore hafter _ _).mpr hf, Option.bind_some, hname, Option.getD_some]
  case table =>
    intro h
    have hnone : (found.value? .output).or (opts.value? .output) = none :=
      Option.eq_none_iff_forall_ne_some.mpr fun t ht => h t ((value?_or_eq_some_iff hbefore hafter _ _).mp ht)
    simp only [combine, hnone, Option.bind_none, Option.getD_none]
  case noHeaders => exact has_or_iff hbefore hafter .noHeaders
  case verbose => exact has_or_iff hbefore hafter .verbose

/-- Let items stand before and after the name of a command, in any order and written in any way: before it options of the program, and
after it those, options of the command and its operands, with at most one of the selectors. Then the command line is accepted, and
the settings are what the items say. -/
theorem settings_of_arranges {front back : List Text} (hp : p ∈ Place.commands) (hfront : Arranges before front)
    (hback : Arranges after back) (hbefore : Orderly .main before) (hafter : Orderly p after)
    (hcomplete : p.operands.length ≤ (after.filterMap Item.operand?).length)
    (hone : ∀ {e e'}, .option .matching e ∈ after → .option .unmatched e' ∉ after) :
    ∃ s, Program.settings (front ++ p.name :: back) = .ok (.ok s) ∧ Assigned p before after s := by
  obtain ⟨opts, closed, hopts, hclosed, hmain⟩ := Scan.walks_main.arranges hfront Scan.opens_empty (Scan.follows_empty hbefore)
  obtain ⟨last, found, hlast, hfound, hall⟩ := (Scan.walks_all p).arranges hback Scan.opens_empty (Scan.follows_empty hafter)
  have hleads : Leads (front ++ [p.name]) opts p := by
    intro rest
    rw [List.append_assoc, hmain]
    exact Scan.main_name hp hopts.due hopts.hyphens rest
  have hscan : Scan.all p .empty back = .ok found := by
    rw [← List.append_nil back, hall]
    exact hlast.close
  have hcheck : check p found = .ok () := by
    refine check_eq_ok_iff.mpr ⟨?_, ?_⟩
    · rintro ⟨hmatching, hunmatched⟩
      obtain ⟨e, he⟩ := Option.isSome_iff_exists.mp hmatching
      obtain ⟨e', he'⟩ := Option.isSome_iff_exists.mp hunmatched
      exact hone ((hfound.value?_iff _ _).mp he) ((hfound.value?_iff _ _).mp he')
    · rwa [hfound.operands]
  obtain ⟨s, hs, hassigned⟩ := exists_assigned hclosed hfound hafter hcomplete hone
  refine ⟨s, ?_, hassigned⟩
  rw [List.append_cons, hleads.settings_eq, hscan]
  simp only [Except.bind, hcheck, hopts.close, Except.map, hs, mapError_ok]

/-- A format before the command and another one after it, among the operands, with an empty namespace. -/
theorem settings_of_arranges_two_formats :
    ∃ s, Program.settings ["-o".toList, "csv".toList, "--verbose".toList, "tolerations".toList, "apps/v1".toList,
        "--namespace=".toList, "--output=json".toList, "deployments".toList, "--match=ssd".toList] = .ok (.ok s) ∧
      Assigned .tolerations [.option .output "csv".toList, .option .verbose []]
        [.operand "apps/v1".toList, .option .ns [], .option .output "json".toList, .operand "deployments".toList,
          .option .matching "ssd".toList] s := by
  have hfront := Arranges.cons (@Written.shortName .output 'o' "csv".toList rfl rfl (by decide))
    (.cons (@Written.flag .verbose rfl) .nil)
  have hback := Arranges.cons (@Written.operand "apps/v1".toList (by decide)) (.cons (@Written.assignment .ns [] rfl)
    (.cons (@Written.assignment .output "json".toList rfl) (.cons (@Written.operand "deployments".toList (by decide))
      (.cons (@Written.assignment .matching "ssd".toList rfl) .nil))))
  have hbefore : Orderly .main [.option .output "csv".toList, .option .verbose []] := by
    constructor
    case allowed =>
      intro o value h
      simp only [List.mem_cons, Item.option.injEq, List.not_mem_nil, or_false] at h
      rcases h with ⟨rfl, rfl⟩ | ⟨rfl, rfl⟩ <;> decide
    case distinct => decide
    case room => decide
  have hafter : Orderly .tolerations [.operand "apps/v1".toList, .option .ns [], .option .output "json".toList,
      .operand "deployments".toList, .option .matching "ssd".toList] := by
    constructor
    case allowed =>
      intro o value h
      simp only [List.mem_cons, reduceCtorEq, Item.option.injEq, List.not_mem_nil, or_false, false_or] at h
      rcases h with ⟨rfl, rfl⟩ | ⟨rfl, rfl⟩ | ⟨rfl, rfl⟩ <;> decide
    case distinct => decide
    case room => decide
  obtain ⟨s, hs, hassigned⟩ := settings_of_arranges (by decide) hfront hback hbefore hafter (by decide) (by simp)
  exact ⟨s, (congrArg Program.settings (by decide +kernel)).trans hs, hassigned⟩

end Settings

end TaintSummary.CommandLine
