import TaintSummary.Proofs.Report.Json
import TaintSummary.Proofs.Report.Yaml.Scalar

/-!
# YAML and JSON of the same records

Of a list of records nothing is lost in YAML: a key can be told from its value, an entry from the next one, and a record from the
next one, whatever texts they hold (`delimited_entry`, `delimited_item`, `render_injective`). The same holds in JSON, where the
records are read back. So two reports are the same in one of the formats exactly when they are in the other, which is when they have
the same records (`yaml_eq_iff_json_eq`).
-/

namespace TaintSummary

namespace Yaml

/-- A key and what stands between it and the space before its value. -/
def keyText (key : Text) : Text := if isSimpleKey key then scalar key ++ [':'] else '?' :: ' ' :: line key ++ "  :".toList

theorem entry_eq (key value : Text) : entry key value = keyText key ++ ' ' :: line value := by
  unfold entry keyText line
  split <;> simp

/-- A key that stands on one line is no block. -/
theorem styleOf_ne_literal {key : Text} (h : isSimpleKey key = true) : styleOf key ≠ .literal := by
  intro hliteral
  have hbreaks : key.any isBreak = false := by simpa using (Bool.and_eq_true_iff.mp h).1
  have hline : '\n' ∉ key := fun hmem => absurd (List.any_eq_false.mp hbreaks '\n' hmem) (by decide)
  rw [styleOf, if_neg hline] at hliteral
  split at hliteral
  · cases hliteral
  · split at hliteral <;> cases hliteral

/-- No text before a colon looks like the mark in front of a key on lines of its own. -/
theorem scalar_append_ne_mark (t more more' : Text) : scalar t ++ ':' :: more ≠ '?' :: ' ' :: more' := by
  intro h
  obtain ⟨c, u, ht, hstyle, -⟩ := scalar_eq_cons t
  rw [ht] at h
  obtain ⟨rfl, htail⟩ := List.cons.inj h
  have hplain : styleOf t = .plain := hstyle.symm
  obtain ⟨c, v, rfl, hv⟩ := isPlain_of_styleOf hplain
  rw [scalar, hplain] at ht
  obtain ⟨rfl, rfl⟩ := List.cons.inj ht
  have hstart := hv.start
  cases v with
  | nil => exact absurd hstart (by decide)
  | cons d v =>
    obtain ⟨rfl, -⟩ := List.cons.inj htail
    exact absurd hstart (by simp [startsWithMark, endsWord])

/-- A key shows where it ends before the space in front of its value. -/
theorem delimited_keyText : Text.Delimited keyText fun rest => rest.head? = some ' ' := by
  intro key key' rest rest' hrest hrest' h
  have hcolon : ∀ rest : Text, rest.head? = some ' ' → EndsPlain (':' :: rest) := by
    intro rest hrest
    cases rest with
    | nil => cases hrest
    | cons c more =>
      cases hrest
      exact Or.inr ⟨more, rfl⟩
  have hblock : ∀ rest, EndsBlock ("  :".toList ++ rest) := endsBlock_indented (by decide)
  unfold keyText at h
  cases hkey : isSimpleKey key <;> cases hkey' : isSimpleKey key' <;>
    simp only [hkey, hkey', if_true, if_false, Bool.false_eq_true, List.append_assoc, List.cons_append] at h
  · obtain ⟨rfl, hmore⟩ := delimited_line (hblock rest) (hblock rest') (List.cons.inj (List.cons.inj h).2).2
    exact ⟨rfl, List.append_cancel_left hmore⟩
  · -- only one of the keys stands behind a mark
    exact absurd h.symm (scalar_append_ne_mark _ _ _)
  · exact absurd h (scalar_append_ne_mark _ _ _)
  · obtain ⟨rfl, hmore⟩ := scalar_append_inj (styleOf_ne_literal hkey) (hcolon rest hrest) (hcolon rest' hrest') h
    exact ⟨rfl, (List.cons.inj hmore).2⟩

/-- A key with its value shows where it ends before a line that is not indented like a block. -/
theorem delimited_entry : Text.Delimited (fun e : Text × Text => entry e.1 e.2) EndsBlock := by
  rintro ⟨key, value⟩ ⟨key', value'⟩ rest rest' hrest hrest' h
  simp only [entry_eq, List.append_assoc, List.cons_append] at h
  obtain ⟨rfl, hmore⟩ := delimited_keyText rfl rfl h
  obtain ⟨rfl, hrests⟩ := delimited_line hrest hrest' (List.cons.inj hmore).2
  exact ⟨rfl, hrests⟩

/-- An entry begins neither with a space nor like an empty record. -/
theorem entry_eq_cons (key value : Text) : ∃ c more, entry key value = c :: more ∧ c ≠ ' ' ∧ c ≠ '\x7b' := by
  rw [entry_eq, keyText]
  split
  · obtain ⟨c, u, hkey, -, hc⟩ := scalar_eq_cons key
    rw [hkey]
    exact ⟨c, _, rfl, hc⟩
  · exact ⟨'?', _, rfl, by decide⟩

/-- An entry of a record behind the first one. -/
def nextEntry (e : Text × Text) : Text := ' ' :: ' ' :: entry e.1 e.2

/-- The entries of a record. -/
def entriesText : List (Text × Text) → Text
  | [] => "{}\n".toList
  | e :: more => entry e.1 e.2 ++ more.flatMap nextEntry

theorem item_eq (r : Record) : item r = '-' :: ' ' :: entriesText r.entries := by
  unfold item entriesText
  split
  · next h => rw [h]; rfl
  · next h => rw [h]; rfl

/-- What ends a record: the next one or the end of the text. -/
def EndsItem (rest : Text) : Prop := ∀ c, rest.head? = some c → c = '-'

/-- What ends a record ends a block in it. -/
theorem EndsItem.endsBlock {rest : Text} (h : EndsItem rest) : EndsBlock rest := by
  cases rest with
  | nil => exact ⟨rfl, by decide⟩
  | cons c rest =>
    obtain rfl := h c rfl
    exact ⟨rfl, by simp [indent, Text.spaces, List.replicate]⟩

/-- A further entry does not belong to a block before it. -/
theorem endsBlock_nextEntry (e : Text × Text) (rest : Text) : EndsBlock (nextEntry e ++ rest) := by
  obtain ⟨c, more, hentry, hspace, -⟩ := entry_eq_cons e.1 e.2
  rw [nextEntry, hentry]
  exact endsBlock_indented hspace _

/-- Further entries of a record end a block in it. -/
theorem endsBlock_nextEntries (es : List (Text × Text)) {rest : Text} (h : EndsItem rest) :
    EndsBlock (es.flatMap nextEntry ++ rest) := by
  have hends : ∀ rest, EndsItem rest → EndsBlock rest := fun _ => EndsItem.endsBlock
  exact Text.ends_flatMap_append hends endsBlock_nextEntry es h

/-- Entries show where they end before the next record. -/
theorem delimited_nextEntries : Text.Delimited (List.flatMap nextEntry) EndsItem := by
  have hentry : Text.Delimited nextEntry EndsBlock := fun e e' rest rest' hrest hrest' h =>
    delimited_entry hrest hrest' (List.cons.inj (List.cons.inj h).2).2
  refine hentry.flatMap (fun _ => EndsItem.endsBlock) endsBlock_nextEntry fun e rest h => ?_
  exact absurd (h ' ' rfl) (by decide)

/-- The entries of a record show where they end before the next one. -/
theorem delimited_entriesText : Text.Delimited entriesText EndsItem := by
  have hempty : ∀ key value more rest, "{}\n".toList ++ rest ≠ entry key value ++ more := by
    intro key value more rest h
    obtain ⟨c, u, hentry, -, hbrace⟩ := entry_eq_cons key value
    rw [hentry] at h
    exact hbrace (List.cons.inj h).1.symm
  intro es es' rest rest' hrest hrest' h
  cases es with
  | nil =>
    cases es' with
    | nil => exact ⟨rfl, List.append_cancel_left h⟩
    | cons e' es' =>
      rw [entriesText, entriesText, List.append_assoc] at h
      exact absurd h (hempty _ _ _ _)
  | cons e es =>
    cases es' with
    | nil =>
      rw [entriesText, entriesText, List.append_assoc] at h
      exact absurd h.symm (hempty _ _ _ _)
    | cons e' es' =>
      rw [entriesText, entriesText, List.append_assoc, List.append_assoc] at h
      obtain ⟨rfl, htail⟩ := delimited_entry (endsBlock_nextEntries es hrest) (endsBlock_nextEntries es' hrest') h
      obtain ⟨rfl, hrests⟩ := delimited_nextEntries hrest hrest' htail
      exact ⟨rfl, hrests⟩

/-- A record shows where it ends before the next one. -/
theorem delimited_item : Text.Delimited item EndsItem := by
  intro r r' rest rest' hrest hrest' h
  rw [item_eq, item_eq] at h
  obtain ⟨hentries, hrests⟩ := delimited_entriesText hrest hrest' (List.cons.inj (List.cons.inj h).2).2
  exact ⟨SortedMap.entries_injective hentries, hrests⟩

/-- Lists of records are written differently when they differ. -/
theorem render_injective : Function.Injective render := by
  have hitems : Text.Delimited (List.flatMap item) fun rest => rest = [] := by
    refine delimited_item.flatMap ?_ (fun r rest c hc => ?_) fun r rest h => ?_
    · rintro _ rfl c hc
      cases hc
    · rw [item_eq] at hc
      exact (Option.some.inj hc).symm
    · rw [item_eq] at h
      cases h
  have hcons : ∀ r rs, render (r :: rs) ≠ render [] := by
    intro r rs h
    have hrender : render (r :: rs) = '-' :: ' ' :: entriesText r.entries ++ rs.flatMap item := by rw [← item_eq]; rfl
    rw [hrender] at h
    exact absurd (List.cons.inj h).1 (by decide)
  intro rs rs' h
  cases rs with
  | nil =>
    cases rs' with
    | nil => rfl
    | cons r' rs' => exact absurd h.symm (hcons r' rs')
  | cons r rs =>
    cases rs' with
    | nil => exact absurd h (hcons r rs)
    | cons r' rs' => exact (hitems rfl rfl (congrArg (· ++ []) h)).1

end Yaml

/-- A report is written in JSON with all of its records. -/
theorem Report.records_eq_of_toJson {r r' : Report} (h : r.toJson = r'.toJson) : r.records = r'.records := by
  have hentry : ∀ e e' : Text × Text, (e.1, Json.string e.2) = (e'.1, .string e'.2) → e = e' := by
    intro e e' h
    obtain ⟨hname, hcell⟩ := Prod.mk.inj h
    exact Prod.ext hname (Json.string.inj hcell)
  refine (List.map_inj_right fun record record' hobject => ?_).mp (Json.array.inj h)
  exact SortedMap.entries_injective ((List.map_inj_right hentry).mp (Json.object.inj hobject))

/-- Two reports are the same in YAML exactly when they are the same in JSON: in either format they are the same when their records
are, and only then. -/
theorem yaml_eq_iff_json_eq (headers headers' : Bool) (r r' : Report) :
    (r.render .yaml headers = r'.render .yaml headers' ↔ r.render .json headers = r'.render .json headers') ∧
      (r.render .yaml headers = r'.render .yaml headers' ↔ r.records = r'.records) ∧
      (r.render .json headers = r'.render .json headers' ↔ r.records = r'.records) := by
  have hyaml : r.render .yaml headers = r'.render .yaml headers' ↔ r.records = r'.records := Yaml.render_injective.eq_iff
  have hjson : r.render .json headers = r'.render .json headers' ↔ r.records = r'.records := by
    constructor
    · intro h
      refine Report.records_eq_of_toJson (Option.some.inj ?_)
      rw [← Json.parse_pretty (Report.isPlain_toJson r), ← Json.parse_pretty (Report.isPlain_toJson r')]
      exact congrArg Json.parse h
    · intro h
      simp only [Report.render, Report.toJson, h]
  exact ⟨hyaml.trans hjson.symm, hyaml, hjson⟩

/-- Of two columns with the same name the last one counts, a text that looks like null is quoted, and a block shows the line feed at
its end. -/
example :
    let r : Report := ⟨["NAME".toList, "Name".toList], [["a".toList, "null".toList], ["a".toList, "b\n".toList]]⟩
    let r' : Report := ⟨["name".toList], [["null".toList], ["b\n".toList, "a".toList]]⟩
    r.render .yaml true = "- name: 'null'\n- name: |\n    b\n".toList ∧
      r'.render .yaml true = "- name: 'null'\n- name: |\n    b\n".toList := by
  decide +kernel

end TaintSummary
