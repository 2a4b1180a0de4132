import WorkflowLint.Config.Encoding
import WorkflowLint.Proofs.Json.Rewording
import WorkflowLint.Proofs.Json.RoundTrip

/-!
# `WorkflowLint.Proofs.Config.Encoding`: what a configuration text says

A configuration is written as an object of objects and read back (`Config.decode_toJson`). More
often it is written by people, who leave out what keeps its default, put the keys into any order and
add keys of their own.

`Config.GivenBy` says what such a text means, setting by setting: a setting is the value that the
text gives under its name, inside the object of its group, and the default if the text gives none.
It holds of every text that is understood (`givenBy_of_decode`). A group that is missing and a group
that is there without the setting come to the same, although one is filled in by the default of the
group and the other by that of the setting.

So only what is given under known names counts. `Config.SameSettings` relates texts that differ in
the order of keys and in unknown keys, also inside the groups, and such texts are understood alike.
-/

set_option autoImplicit false

namespace WorkflowLint

open Json (Reading Rewording Readable readable_ofStrings readable_ofNat)
open Json.Decode

/-! ### The settings -/

/-- The settings in a choice of rules, with their names. -/
def RuleChoice.parts : List (String × (RuleChoice → List String)) :=
  [("enable", (·.enable)), ("disable", (·.disable))]

/-- The settings in thresholds, with their names. -/
def Thresholds.parts : List (String × (Thresholds → Nat)) :=
  [("maxNestingDepth", (·.maxNestingDepth)),
   ("maxUrlQueryLength", (·.maxUrlQueryLength)),
   ("minLoopLogMessages", (·.minLoopLogMessages)),
   ("minLogMessages", (·.minLogMessages)),
   ("maxActivitiesWithoutTryCatch", (·.maxActivitiesWithoutTryCatch))]

/-- The names of the settings in a choice of rules. -/
def RuleChoice.names : List String := parts.map (·.1)

/-- The names of the thresholds. -/
def Thresholds.names : List String := parts.map (·.1)

/-- The names of the groups of settings in a configuration. -/
def Config.names : List String := ["rules", "exclude", "thresholds"]

/-- A setting is what a text gives, and the default if the text gives nothing. -/
def Gives {α : Type} (encode : α → Json) (given : Option Reading) (default value : α) : Prop :=
  match given with
  | none => value = default
  | some r => r = Reading.ofJson (encode value)

/-- A configuration is the one that a text gives: each setting is. -/
structure Config.GivenBy (r : Reading) (c : Config) : Prop where
  rules : ∀ p ∈ RuleChoice.parts,
    Gives .ofStrings ((r.given? names "rules").bind (·.given? RuleChoice.names p.1))
      (p.2 {}) (p.2 c.rules)
  exclude : Gives .ofStrings (r.given? names "exclude") [] c.exclude
  thresholds : ∀ p ∈ Thresholds.parts,
    Gives .ofNat ((r.given? names "thresholds").bind (·.given? Thresholds.names p.1))
      (p.2 {}) (p.2 c.thresholds)

/-- What a group of settings says is the same. Other settings have to be equal. -/
def Config.SameGroup : String → Reading → Reading → Prop
  | "rules" => Rewording RuleChoice.names fun _ => Eq
  | "thresholds" => Rewording Thresholds.names fun _ => Eq
  | _ => Eq

/-- Two texts have the same settings: they differ in the order of keys and in unknown keys, in the
configuration and in its groups. -/
def Config.SameSettings (text text' : String) : Prop :=
  Rewording names SameGroup (Json.Script.read text).reading (Json.Script.read text').reading ∧
    (Json.Script.read text).surplus = (Json.Script.read text').surplus

/-! ### Fields and parts -/

/-- Patterns are decoded from the tree of a list of texts, and from no other tree. The tree
determines the list, so this is all there is to say about the field. -/
theorem patterns_eq_ok_iff {r : Reading} {l : List String} :
    list string r = .ok l ↔ r = Reading.ofJson (.ofStrings l) := by
  -- The encoding is an array of texts, each of which is a proper string.
  have htree : Reading.ofJson (.ofStrings l) = .array (l.map fun s => .string (.ok s)) none := by
    rw [Json.ofStrings, Reading.ofJson]
    congr 1
    induction l with
    | nil => rfl
    | cons s l ih =>
      rw [List.map_cons, List.map_cons, Json.ofItems, ih]
      rfl
  rw [htree]
  exact list_eq_ok_iff fun r s => string_eq_ok_iff

/-- What is decoded under a name is given under it. The decoder is only known to be the inverse of
an encoder, which all settings have in common. -/
theorem gives_of_takes {α : Type} {d : Decoder α} {encode : α → Json}
    (hd : ∀ r a, d r = .ok a ↔ r = Reading.ofJson (encode a)) {given : Option Reading}
    {default value : α} (h : Takes d given default value) : Gives encode given default value := by
  cases given with
  | none => exact h
  | some r => exact (hd r value).mp h

/-- A setting in a group is given inside what is given as the group. Where no group is given, its
default holds the defaults of its settings, so that the setting has its own default. -/
theorem gives_of_takes_group {σ α : Type} {group : Decoder σ} {d : Decoder α} {encode : α → Json}
    (hd : ∀ r a, d r = .ok a ↔ r = Reading.ofJson (encode a)) {names : List String} {name : String}
    {part : σ → α} {start s : σ}
    (hpart : ∀ r s, group r = .ok s → Takes d (r.given? names name) (part start) (part s))
    {given : Option Reading} (h : Takes group given start s) :
    Gives encode (given.bind (·.given? names name)) (part start) (part s) := by
  cases given with
  | none =>
    -- The group is the default one, as a whole.
    exact congrArg part h
  | some r => exact gives_of_takes hd (hpart r s h)

namespace RuleChoice

/-- Each setting is written by the field of its name and by no other field, which is what the
general lemmas on records ask for. -/
theorem writes : ∀ p ∈ parts, Writes fields p.1 p.2 (list string) := by
  simp only [parts, List.forall_mem_cons, List.not_mem_nil, false_implies, implies_true, and_true]
  refine ⟨?_, ?_⟩
  -- Along the fields, one has the name and puts its value into the part.
  all_goals repeat first
    | exact .nil
    | refine .cons_own (fun _ _ => rfl) ?_
    | refine .cons_other (by decide) (fun _ _ => rfl) ?_

/-- A decoded choice of rules has, for each of its two lists, what the group gives under its name,
and the empty list if the group gives nothing. -/
theorem takes_of_decode {p : String × (RuleChoice → List String)} (hp : p ∈ parts) {r : Reading}
    {c : RuleChoice} (h : decode r = .ok c) :
    Takes (list string) (r.given? names p.1) (p.2 {}) (p.2 c) :=
  record_part (writes p hp) (List.mem_map_of_mem hp) (by decide) h

/-- The two fields write different parts, so the order in which their keys come does not matter. -/
theorem independent : Independent fields := by
  -- A field need not commute with itself; two different ones write different parts.
  intro f hf g hg hne
  simp only [fields, List.mem_cons, List.not_mem_nil, or_false] at hf hg
  rcases hf with rfl | rfl <;> rcases hg with rfl | rfl
  all_goals first
    | exact absurd rfl hne
    | exact commutes_valueField fun _ _ _ => rfl

/-- A choice of rules is decoded alike from two groups that differ in the order of keys and in
unknown keys. -/
theorem decode_rewording {r r' : Reading} (h : Rewording names (fun _ => Eq) r r')
    (c : RuleChoice) : decode r = .ok c ↔ decode r' = .ok c :=
  record_rewording_of_eq independent h

/-- A choice of rules is decoded from its own encoding, as each of its lists is. -/
theorem decode_toJson (c : RuleChoice) : decode (.ofJson c.toJson) = .ok c := by
  have henable : list string (.ofJson (.ofStrings c.enable)) = .ok c.enable :=
    patterns_eq_ok_iff.mpr rfl
  have hdisable : list string (.ofJson (.ofStrings c.disable)) = .ok c.disable :=
    patterns_eq_ok_iff.mpr rfl
  refine record_object_eq_ok_iff.mpr ?_
  simp [Json.ofMembers, fieldsByName, fields, patternsField, lift, henable, hdisable, Except.map,
    bind, Except.bind]

/-- The encoding of a choice of rules is a tree that can be written and read back: two lists of
texts, nested no deeper than the reader allows. -/
theorem readable_toJson (c : RuleChoice) : Readable 2 c.toJson := by
  refine .object fun m hm => ?_
  obtain ⟨p, _, rfl⟩ : ∃ p ∈ parts, (p.1, Json.ofStrings (p.2 c)) = m := List.mem_map.mp hm
  exact readable_ofStrings 0 (p.2 c)

end RuleChoice

namespace Thresholds

/-- Each threshold is written by the field of its name and by no other field. The proof runs along
the five fields, as it does for the two lists of a choice of rules. -/
theorem writes : ∀ p ∈ parts, Writes fields p.1 p.2 count := by
  simp only [parts, List.forall_mem_cons, List.not_mem_nil, false_implies, implies_true, and_true]
  refine ⟨?_, ?_, ?_, ?_, ?_⟩
  all_goals repeat first
    | exact .nil
    | refine .cons_own (fun _ _ => rfl) ?_
    | refine .cons_other (by decide) (fun _ _ => rfl) ?_

/-- Decoded thresholds have the numbers that the group gives under their names, and the default
where it gives none. -/
theorem takes_of_decode {p : String × (Thresholds → Nat)} (hp : p ∈ parts) {r : Reading}
    {t : Thresholds} (h : decode r = .ok t) :
    Takes count (r.given? names p.1) (p.2 {}) (p.2 t) :=
  record_part (writes p hp) (List.mem_map_of_mem hp) (by decide) h

/-- The five fields write different thresholds, so that they commute in pairs. -/
theorem independent : Independent fields := by
  intro f hf g hg hne
  simp only [fields, List.mem_cons, List.not_mem_nil, or_false] at hf hg
  rcases hf with rfl | rfl | rfl | rfl | rfl <;> rcases hg with rfl | rfl | rfl | rfl | rfl
  all_goals first
    | exact absurd rfl hne
    | exact commutes_valueField fun _ _ _ => rfl

/-- Thresholds are decoded alike from two groups that differ in the order of keys and in unknown
keys. -/
theorem decode_rewording {r r' : Reading} (h : Rewording names (fun _ => Eq) r r')
    (t : Thresholds) : decode r = .ok t ↔ decode r' = .ok t :=
  record_rewording_of_eq independent h

/-- Thresholds are decoded from their own encoding, whatever the numbers are: bounds come in only
where numbers are written as text. -/
theorem decode_toJson (t : Thresholds) : decode (.ofJson t.toJson) = .ok t := by
  -- Each number is decoded from its own encoding.
  have hcount (n : Nat) : count (.ofJson (.ofNat n)) = .ok n := count_eq_ok_iff.mpr rfl
  refine record_object_eq_ok_iff.mpr ?_
  simp [Json.ofMembers, fieldsByName, fields, countField, lift, hcount, Except.map, bind,
    Except.bind]

/-- The thresholds fit into 64 bits. A greater number could be encoded, but its text would not be
read as an integer again. -/
def Fits (t : Thresholds) : Prop := ∀ p ∈ parts, p.2 t < UInt64.size

/-- The encoding of thresholds that fit is a tree that can be written and read back. -/
theorem readable_toJson {t : Thresholds} (h : t.Fits) : Readable 1 t.toJson := by
  refine .object fun m hm => ?_
  -- The members are the settings by their names, each with its count.
  obtain ⟨p, hp, rfl⟩ : ∃ p ∈ parts, (p.1, Json.ofNat (p.2 t)) = m := List.mem_map.mp hm
  exact readable_ofNat 0 (h p hp)

end Thresholds

/-! ### Configurations -/

namespace Config

/-- The choice of rules is written by the first of the three fields. -/
theorem writes_rules : Writes fields "rules" Config.rules RuleChoice.decode := by
  refine .cons_own (fun _ _ => rfl) (.cons_other (by decide) (fun _ _ => rfl) ?_)
  exact .cons_other (by decide) (fun _ _ => rfl) .nil

/-- The patterns of what to leave out are written by the second field. -/
theorem writes_exclude : Writes fields "exclude" Config.exclude (list string) := by
  refine .cons_other (by decide) (fun _ _ => rfl) (.cons_own (fun _ _ => rfl) ?_)
  exact .cons_other (by decide) (fun _ _ => rfl) .nil

/-- The thresholds are written by the third field, and the two in front of it leave them alone. -/
theorem writes_thresholds : Writes fields "thresholds" Config.thresholds Thresholds.decode := by
  refine .cons_other (by decide) (fun _ _ => rfl) (.cons_other (by decide) (fun _ _ => rfl) ?_)
  exact .cons_own (fun _ _ => rfl) .nil

/-- A configuration that is decoded is the one that is given: every setting has the value that
stands under its name, inside its group, and its default if there is no such value. -/
theorem givenBy_of_decode {r : Reading} {c : Config} (h : decode r = .ok c) : c.GivenBy r where
  -- Settings in a group are given through the group, `exclude` stands at the top.
  rules p hp := gives_of_takes_group (fun _ _ => patterns_eq_ok_iff)
    (fun _ _ => RuleChoice.takes_of_decode hp)
    (record_part writes_rules (by decide) (by decide) h)
  exclude := gives_of_takes (fun _ _ => patterns_eq_ok_iff)
    (record_part writes_exclude (by decide) (by decide) h)
  thresholds p hp := gives_of_takes_group (fun _ _ => count_eq_ok_iff)
    (fun _ _ => Thresholds.takes_of_decode hp)
    (record_part writes_thresholds (by decide) (by decide) h)

/-- The three fields write different parts of a configuration, so their keys may come in any
order. -/
theorem independent : Independent fields := by
  intro f hf g hg hne
  simp only [fields, List.mem_cons, List.not_mem_nil, or_false] at hf hg
  rcases hf with rfl | rfl | rfl <;> rcases hg with rfl | rfl | rfl
  all_goals first
    | exact absurd rfl hne
    | exact commutes_valueField fun _ _ _ => rfl

/-- Groups that say the same are taken alike, each by its own field. This is where the rewording
inside a group enters that of the whole. -/
theorem set_sameGroup {f : RecordField Config} (hf : f ∈ fields) {r r' : Reading}
    (h : SameGroup f.name r r') (start c : Config) :
    f.set start r = .ok c ↔ f.set start r' = .ok c := by
  simp only [fields, List.mem_cons, List.not_mem_nil, or_false] at hf
  rcases hf with rfl | rfl | rfl
  · exact valueField_set_congr (RuleChoice.decode_rewording h)
  · -- A list of patterns is no group, so it is given by the same value.
    rw [show r = r' from h]
  · exact valueField_set_congr (Thresholds.decode_rewording h)

/-- Keys may change places and unknown keys may come or go, at the top and inside the two groups,
and the same configuration is decoded, or none from either. -/
theorem decode_rewording {r r' : Reading} (h : Rewording names SameGroup r r') (c : Config) :
    decode r = .ok c ↔ decode r' = .ok c :=
  record_rewording independent (fun _ hf _ _ hsame => set_sameGroup hf hsame) h

/-- A configuration is decoded from its own encoding, since its groups are. -/
theorem decode_toJson (c : Config) : decode (.ofJson c.toJson) = .ok c := by
  have hexclude : list string (.ofJson (.ofStrings c.exclude)) = .ok c.exclude :=
    patterns_eq_ok_iff.mpr rfl
  refine record_object_eq_ok_iff.mpr ?_
  simp [Json.ofMembers, fieldsByName, fields, patternsField, lift, hexclude,
    RuleChoice.decode_toJson, Thresholds.decode_toJson, Except.map, bind, Except.bind]

/-- The encoding of a configuration is nested three levels deep at most, and if its thresholds fit
it can be written as text and read back. -/
theorem readable_toJson {c : Config} (h : c.thresholds.Fits) : Readable 3 c.toJson := by
  have hthresholds : Readable 2 c.thresholds.toJson :=
    (Thresholds.readable_toJson h).mono (by decide)
  refine .object ?_
  simp only [List.forall_mem_cons, List.not_mem_nil, false_implies, implies_true, and_true]
  exact ⟨c.rules.readable_toJson, readable_ofStrings 1 c.exclude, hthresholds⟩

/-- A configuration is read back from its text, written in either layout. What is decoded from any
text is what the text gives, and a text with the same settings says the same. -/
theorem ofText_settings :
    (∀ c : Config, c.thresholds.Fits →
      ofText c.toJson.compact = .ok c ∧ ofText c.toJson.pretty = .ok c) ∧
    (∀ text c, ofText text = .ok c → c.GivenBy (Json.Script.read text).reading) ∧
    (∀ text text', SameSettings text text' →
      ∀ c, ofText text = .ok c ↔ ofText text' = .ok c) := by
  refine ⟨fun c hfits => ?_, fun text c h => ?_, fun text text' h c => ?_⟩
  -- Both layouts put nothing but blanks between tokens, so they are read as the same tree.
  · have hread := readable_toJson hfits
    constructor
    · rw [ofText, Json.compact, Json.fromText_write _ Json.Layout.blank_compact hread,
        decode_toJson]
    · rw [ofText, Json.pretty, Json.fromText_write _ Json.Layout.blank_pretty hread, decode_toJson]
  · exact givenBy_of_decode (fromText_eq_ok_iff.mp h).1
  · rw [ofText, ofText, fromText_eq_ok_iff, fromText_eq_ok_iff, decode_rewording h.1, h.2]

/-- A configuration that gives two settings, each in a group of its own, and leaves the others
out. -/
def terse : String :=
  "\x7b\"rules\": \x7b\"disable\": [\"LOGIC-*\"]\x7d, \"thresholds\": \x7b\"minLogMessages\": 0\x7d\x7d"

/-- The same settings in the other order, with keys that mean nothing around them. -/
def wordy : String :=
  "\x7b\"$schema\": null, \"thresholds\": \x7b\"maxAge\": [\x7b\x7d], \"minLogMessages\": 0\x7d, " ++
    "\"rules\": \x7b\"disable\": [\"LOGIC-*\"]\x7d\x7d"

/-- How the first of the two texts is read, with no text left over behind it. -/
theorem read_terse : Json.Script.read terse =
    ⟨.object [(.ok "rules", .object [(.ok "disable", .array [.string (.ok "LOGIC-*")] none)] none),
      (.ok "thresholds", .object [(.ok "minLogMessages", .number (.ok (.integer 0)))] none)] none,
     false⟩ := by rfl

/-- How the second one is read. Keys that mean nothing are still there, as the reader does not
know names. -/
theorem read_wordy : Json.Script.read wordy =
    ⟨.object [(.ok "$schema", .null),
      (.ok "thresholds", .object [(.ok "maxAge", .array [.object [] none] none),
        (.ok "minLogMessages", .number (.ok (.integer 0)))] none),
      (.ok "rules", .object [(.ok "disable", .array [.string (.ok "LOGIC-*")] none)] none)] none,
     false⟩ := by rfl

/-- The two texts have the same settings. Three rewordings lead from one to the other, and each is
checked by computation. -/
theorem sameSettings_terse_wordy : SameSettings terse wordy := by
  rw [SameSettings, read_terse, read_wordy]
  refine ⟨?_, rfl⟩
  -- The groups change places, one of them gets a key, and the configuration gets one.
  refine .trans _ _ _ (.rel _ _ (.order (.swap _ _ []))) ?_
  refine .trans _ _ _ (.rel _ _ (.value ?_ (.rel _ _ (.addition ?_ ?_))))
    (.rel _ _ (.addition ?_ ?_))
  all_goals decide

/-- The greatest thresholds and patterns that have to be quoted are read back, and the two texts give
the same configuration, with defaults for what they leave out. -/
theorem ofText_settings_wordy :
    let greatest : Config :=
      { rules := { enable := ["\"", "\\u002a*"] }, exclude := ["", "**/\n.xaml"],
        thresholds := ⟨18446744073709551615, 0, 18446744073709551615, 0, 1⟩ }
    ofText greatest.toJson.compact = .ok greatest ∧ ofText greatest.toJson.pretty = .ok greatest ∧
    ∃ c, ofText terse = .ok c ∧ ofText wordy = .ok c ∧
      c.rules.enable = [] ∧ c.exclude = [] ∧ c.thresholds.maxNestingDepth = 7 ∧
      c.rules.disable = ["LOGIC-*"] ∧ c.thresholds.minLogMessages = 0 := by
  intro greatest
  obtain ⟨hwritten, hgiven, hsame⟩ := ofText_settings
  have hfits : greatest.thresholds.Fits := by
    simp [greatest, Thresholds.Fits, Thresholds.parts, UInt64.size]
  refine ⟨(hwritten greatest hfits).1, (hwritten greatest hfits).2, ?_⟩
  obtain ⟨c, hc⟩ : ∃ c, ofText terse = .ok c := exists_eq_ok (by decide +kernel)
  have hwordy : ofText wordy = .ok c := (hsame _ _ sameSettings_terse_wordy c).mp hc
  -- What the text gives is read off its tree, setting by setting.
  obtain ⟨hrules, hexclude, hthresholds⟩ := read_wordy ▸ hgiven wordy c hwordy
  refine ⟨c, hc, hwordy, ?_, hexclude, ?_, ?_, ?_⟩
  · exact hrules ("enable", (·.enable)) (by simp [RuleChoice.parts])
  · exact hthresholds ("maxNestingDepth", (·.maxNestingDepth)) (by simp [Thresholds.parts])
  · have hdisable : Reading.array [.string (.ok "LOGIC-*")] none = _ :=
      hrules ("disable", (·.disable)) (by simp [RuleChoice.parts])
    exact (Except.ok.inj (patterns_eq_ok_iff.mpr hdisable)).symm
  · have hcount : Reading.number (.ok (.integer 0)) = _ :=
      hthresholds ("minLogMessages", (·.minLogMessages)) (by simp [Thresholds.parts])
    exact (Except.ok.inj (count_eq_ok_iff.mpr hcount)).symm

end Config

end WorkflowLint
