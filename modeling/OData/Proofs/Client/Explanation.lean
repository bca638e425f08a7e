import OData.Client
import OData.Proofs.Json.Showable

/-!
# What a response says about an error

What an error object describes, and what a response says, are written down as relations: from the
member of an object (`Members.Gives`) over the message, which may be a text or an object
(`Members.GivesMessage`), to the whole response (`Response.Explained`).

* **The relations are functions.** What they assign is what is computed: `gives_iff`,
  `givesMessage_iff`, `describes_iff` for the parts, `errorParts_eq_ok_iff` for all of them, and
  `explained_iff` for a response.
* **When a response says something** (`exists_explained_iff`): its body is not nested too deep, what
  it holds as its error can be shown, and it can be read as a text if that describes nothing
  (`Response.Explicable`). A response that is read as documented always does
  (`Response.Legible.explicable`), and one in UTF-8 is read so unless it is nested too deep
  (`legible_utf8_iff`).
* **The layout makes no difference** (`SameError.explanation_eq`).
-/

namespace OData

/-! ## What an error object describes -/

namespace Members

/-- Whether this is what a member of an object gives to be shown, or that it gives nothing. -/
inductive Gives (members : Members) (name : String) : Option String → Prop where
  /-- A member that counts as present gives its text. -/
  | present {v : Value} {shown : String} (hlookup : members.lookup name = some v)
      (htruthy : v.truthy = true) (hshown : v.showPlain = .ok shown) :
      Gives members name (some shown)
  /-- A member that is missing or does not count as present gives nothing. -/
  | absent (hfalsy : ∀ v, members.lookup name = some v → v.truthy = false) :
      Gives members name none

/-- Whether this is the message of an error, or that it has none. -/
inductive GivesMessage (error : Members) : Option String → Prop where
  /-- A text is a message if it is not empty. -/
  | text {s : String} (hlookup : error.lookup "message" = some (.text s)) (hne : s ≠ "") :
      GivesMessage error (some s)
  /-- In an object the value is the message. -/
  | value {inner : Members} {shown : Option String}
      (hlookup : error.lookup "message" = some (.object inner))
      (hvalue : inner.Gives "value" shown) : GivesMessage error shown
  /-- Nothing else is a message. -/
  | unusable (htext : ∀ s, error.lookup "message" = some (.text s) → s = "")
      (hobject : ∀ inner, error.lookup "message" ≠ some (.object inner)) : GivesMessage error none

/-- Whether these are the parts that describe an error. -/
structure Describes (error : Members) (code message target : Option String) : Prop where
  /-- The code. -/
  code : error.Gives "code" code
  /-- The message. -/
  message : error.GivesMessage message
  /-- What the error is about. -/
  target : error.Gives "target" target

end Members

/-- A part of a description with its label, if it is there. -/
def descriptionPart (label : String) (shown : Option String) : List String :=
  (shown.map (label ++ "=" ++ ·)).toList

/-- The parts of a description that are there. -/
def descriptionParts (code message target : Option String) : List String :=
  descriptionPart "code" code ++ descriptionPart "message" message ++
    descriptionPart "target" target

/-- The description of an error in one line. -/
def descriptionLine (code message target : Option String) : String :=
  String.intercalate " | " (descriptionParts code message target)

/-- A description has no parts exactly if nothing is described. -/
theorem descriptionParts_eq_nil_iff {code message target : Option String} :
    descriptionParts code message target = [] ↔ code = none ∧ message = none ∧ target = none := by
  simp [descriptionParts, descriptionPart]

namespace Value

variable {v : Value}

/-- The text of a value that counts as present, and nothing for any other. -/
def present (v : Value) : Except Fault (Option String) :=
  if v.truthy then v.showPlain.map some else .ok none

theorem present_eq_some_iff {shown : String} :
    v.present = .ok (some shown) ↔ v.truthy = true ∧ v.showPlain = .ok shown := by
  unfold present
  by_cases htruthy : v.truthy = true
  · simp [htruthy, map_eq_ok_iff]
  · simp [htruthy]

theorem present_eq_none_iff : v.present = .ok none ↔ v.truthy = false := by
  unfold present
  by_cases htruthy : v.truthy = true
  · simp [htruthy, map_eq_ok_iff]
  · simp [htruthy]

/-- A value that can be shown gives its text or nothing. -/
theorem exists_present (h : v.showable = true) : ∃ shown, v.present = .ok shown := by
  unfold present
  split
  · exact ⟨some v.plain, by rw [showPlain, shownAs, if_pos h]; rfl⟩
  · exact ⟨none, rfl⟩

end Value

theorem labelled_eq (label : String) (v : Value) :
    labelled label v = v.present.map (descriptionPart label) := by
  unfold labelled Value.present
  split
  · cases v.showPlain <;> rfl
  · rfl

namespace Members

variable {members error : Members} {code message target : Option String}

/-- A member gives its text exactly if it counts as present. -/
theorem gives_iff {name : String} {shown : Option String} :
    members.Gives name shown ↔ ((members.lookup name).getD .null).present = .ok shown := by
  constructor
  · intro hgives
    cases hgives with
    | present hlookup htruthy hshown =>
      rw [hlookup, Option.getD_some]
      exact Value.present_eq_some_iff.2 ⟨htruthy, hshown⟩
    | absent hfalsy =>
      apply Value.present_eq_none_iff.2
      cases hlookup : members.lookup name with
      | none => rfl
      | some v => exact hfalsy v hlookup
  · intro hpresent
    cases shown with
    | some text =>
      obtain ⟨htruthy, hshown⟩ := Value.present_eq_some_iff.1 hpresent
      cases hlookup : members.lookup name with
      | none =>
        rw [hlookup] at htruthy
        cases htruthy
      | some v =>
        rw [hlookup] at htruthy hshown
        exact .present hlookup htruthy hshown
    | none =>
      refine .absent fun v hlookup => ?_
      rw [hlookup] at hpresent
      exact Value.present_eq_none_iff.1 hpresent

/-- In an error exactly one text is the message, or there is none. -/
theorem givesMessage_iff {shown : Option String} :
    error.GivesMessage shown ↔ (messageOf error).present = .ok shown := by
  constructor
  · intro hgives
    unfold messageOf
    cases hgives with
    | text hlookup hne =>
      rw [hlookup]
      exact Value.present_eq_some_iff.2 ⟨by simp [Value.truthy, hne], rfl⟩
    | value hlookup hvalue =>
      rw [hlookup]
      exact gives_iff.1 hvalue
    | unusable htext hobject =>
      apply Value.present_eq_none_iff.2
      split
      · rename_i inner hlookup
        exact absurd hlookup (hobject inner)
      · rename_i s hlookup
        rw [htext s hlookup]
        rfl
      · rfl
  · intro hpresent
    unfold messageOf at hpresent
    split at hpresent
    · rename_i inner hlookup
      exact .value hlookup (gives_iff.2 hpresent)
    · rename_i s hlookup
      cases shown with
      | some text =>
        obtain ⟨htruthy, hshown⟩ := Value.present_eq_some_iff.1 hpresent
        obtain rfl : s = text := Except.ok.inj hshown
        refine .text hlookup ?_
        rintro rfl
        cases htruthy
      | none =>
        have hempty : s = "" := by simpa [Value.truthy] using Value.present_eq_none_iff.1 hpresent
        refine .unusable (fun t ht => ?_) fun inner hinner => ?_
        · cases hlookup.symm.trans ht
          exact hempty
        · cases hlookup.symm.trans hinner
    · rename_i hobject htext
      obtain rfl : none = shown := Except.ok.inj hpresent
      exact .unusable (fun s hs => absurd hs (htext s)) hobject

/-- The parts that describe an error are those that are computed from it. -/
theorem describes_iff :
    error.Describes code message target ↔
      ((error.lookup "code").getD .null).present = .ok code ∧
        (messageOf error).present = .ok message ∧
        ((error.lookup "target").getD .null).present = .ok target := by
  rw [← gives_iff, ← gives_iff, ← givesMessage_iff]
  exact ⟨fun h => ⟨h.code, h.message, h.target⟩, fun ⟨hcode, hmessage, htarget⟩ =>
    ⟨hcode, hmessage, htarget⟩⟩

/-- An error has at most one description. -/
theorem Describes.eq {code' message' target' : Option String}
    (h : error.Describes code message target) (h' : error.Describes code' message' target') :
    code = code' ∧ message = message' ∧ target = target' := by
  obtain ⟨hcode, hmessage, htarget⟩ := describes_iff.1 h
  obtain ⟨hcode', hmessage', htarget'⟩ := describes_iff.1 h'
  refine ⟨?_, ?_, ?_⟩
  · exact Except.ok.inj (hcode.symm.trans hcode')
  · exact Except.ok.inj (hmessage.symm.trans hmessage')
  · exact Except.ok.inj (htarget.symm.trans htarget')

/-- The labelled parts of an error are those of its description. -/
theorem errorParts_eq_ok_iff {parts : List String} :
    errorParts error = .ok parts ↔ ∃ code message target,
      error.Describes code message target ∧ parts = descriptionParts code message target := by
  simp only [describes_iff]
  unfold errorParts
  simp only [labelled_eq, bind_eq_ok_iff, map_eq_ok_iff]
  constructor
  · rintro ⟨_, ⟨code, hcode, rfl⟩, _, ⟨message, hmessage, rfl⟩, _, ⟨target, htarget, rfl⟩, hparts⟩
    exact ⟨code, message, target, ⟨hcode, hmessage, htarget⟩, (Except.ok.inj hparts).symm⟩
  · rintro ⟨code, message, target, ⟨hcode, hmessage, htarget⟩, rfl⟩
    exact ⟨_, ⟨code, hcode, rfl⟩, _, ⟨message, hmessage, rfl⟩, _, ⟨target, htarget, rfl⟩, rfl⟩

/-- An error that can be shown has a description. -/
theorem exists_describes (h : (Value.object error).showable = true) :
    ∃ code message target, error.Describes code message target := by
  have hmember {members : Members} (hmembers : (Value.object members).showable = true)
      (name : String) : ((members.lookup name).getD .null).showable = true := by
    cases hlookup : members.lookup name with
    | none => rfl
    | some v => exact Value.showable_of_lookup hmembers name hlookup
  have hmessage : (messageOf error).showable = true := by
    unfold messageOf
    split
    · rename_i inner hlookup
      exact hmember (Value.showable_of_lookup h _ hlookup) "value"
    · rfl
    · rfl
  obtain ⟨code, hcode⟩ := Value.exists_present (hmember h "code")
  obtain ⟨message, hmessage⟩ := Value.exists_present hmessage
  obtain ⟨target, htarget⟩ := Value.exists_present (hmember h "target")
  exact ⟨code, message, target, describes_iff.2 ⟨hcode, hmessage, htarget⟩⟩

end Members

/-! ## What a response says -/

namespace Response

variable {r : Response} {error : Members}

/-- Whether the document of a response is an object with this object as its error. -/
def Holds (r : Response) (error : Members) : Prop :=
  ∃ members, r.document = .ok (.object members) ∧ members.lookup "error" = some (.object error)

/-- Whether this is what a response says about an error. -/
inductive Explained (r : Response) : String → Prop where
  /-- The description of the error that it holds, if there is a part of one. -/
  | described {error : Members} {code message target : Option String} (hholds : r.Holds error)
      (hdescribes : error.Describes code message target)
      (hsome : ¬(code = none ∧ message = none ∧ target = none)) :
      Explained r (descriptionLine code message target)
  /-- Otherwise its text, unless it is nested too deep. -/
  | text {s : String} (hread : r.document ≠ .error .tooDeep)
      (hnone : ∀ error, r.Holds error → error.Describes none none none) (htext : r.text = .ok s) :
      Explained r s

/-- Whether a response says something about an error: its body is not nested too deep, the error
that it holds can be shown, and if that describes nothing, the body can be read as a text. -/
structure Explicable (r : Response) : Prop where
  /-- The body is not nested too deep. -/
  document : r.document ≠ .error .tooDeep
  /-- The error that it holds can be shown. -/
  shown : ∀ error, r.Holds error → ∃ code message target, error.Describes code message target
  /-- It can be read as a text if no error is described. -/
  text : (∀ error, r.Holds error → error.Describes none none none) → ∃ s, r.text = .ok s

/-- Whether a response is read as documented: its body as a text, and as a document or not, but not
given up; and a document holds no integer of more digits than are ever read. -/
structure Legible (r : Response) : Prop where
  /-- The body is read as a text. -/
  text : ∃ s, r.text = .ok s
  /-- It is read as a document, or it is none. -/
  document : r.document ≠ .error .tooDeep
  /-- A document can be shown. -/
  shown : ∀ v, r.document = .ok v → v.showable = true

/-- Whether two responses hold the same error in two layouts: one has a text for a message, and the
other has an object with this text. -/
def SameError (newer older : Response) : Prop :=
  ∃ this other inner s, newer.Holds this ∧ older.Holds other ∧ s ≠ "" ∧
    this.lookup "message" = some (.text s) ∧ other.lookup "message" = some (.object inner) ∧
    inner.lookup "value" = some (.text s) ∧ other.lookup "code" = this.lookup "code" ∧
    other.lookup "target" = this.lookup "target"

/-- A response holds at most one error. -/
theorem Holds.eq {other : Members} (h : r.Holds error) (hother : r.Holds other) :
    other = error := by
  obtain ⟨members, hdocument, hlookup⟩ := h
  obtain ⟨others, hothers, hfound⟩ := hother
  cases hdocument.symm.trans hothers
  cases hlookup.symm.trans hfound
  rfl

/-- What is true of all errors that a response holds is true of the one that it holds. -/
theorem Holds.forall_iff (h : r.Holds error) {P : Members → Prop} :
    (∀ other, r.Holds other → P other) ↔ P error := by
  refine ⟨fun hall => hall error h, fun herror other hother => ?_⟩
  rwa [h.eq hother]

theorem Holds.document_ne (h : r.Holds error) : r.document ≠ .error .tooDeep := by
  obtain ⟨members, hdocument, -⟩ := h
  rw [hdocument]
  exact fun heq => nomatch heq

/-- What is looked up as the error of a document is what the response holds. -/
theorem holds_iff {document : Value} (hdocument : r.document = .ok document) :
    r.Holds error ↔ (document.get? "error").bind Value.members? = some error := by
  unfold Holds
  rw [hdocument]
  cases document with
  | object members =>
    cases hlookup : members.lookup "error" with
    | none => simp [Value.get?, hlookup]
    | some v => cases v <;> simp [Value.get?, Value.members?, hlookup]
  | _ => simp [Value.get?]

/-- A response that holds no error says what its text is. -/
theorem explanation_of_not_holds (hread : r.document ≠ .error .tooDeep)
    (h : ∀ error, ¬ r.Holds error) : r.explanation = r.text := by
  unfold explanation
  split
  · contradiction
  · rfl
  · rename_i document hdocument
    cases herror : (document.get? "error").bind Value.members? with
    | none => rfl
    | some error => exact absurd ((holds_iff hdocument).2 herror) (h error)

/-- A response that holds an error says what its parts are. -/
theorem Holds.explanation_eq_bind (h : r.Holds error) :
    r.explanation = errorParts error >>= r.lineOf := by
  obtain ⟨members, hdocument, -⟩ := id h
  have herror := (holds_iff hdocument).1 h
  unfold explanation
  rw [hdocument]
  simp only [herror]

/-- A response that holds an error says what describes it, or else its text. -/
theorem Holds.explanation_eq (h : r.Holds error) {code message target : Option String}
    (hdescribes : error.Describes code message target) :
    r.explanation = if code = none ∧ message = none ∧ target = none then r.text
      else .ok (descriptionLine code message target) := by
  have hparts := Members.errorParts_eq_ok_iff.2 ⟨code, message, target, hdescribes, rfl⟩
  have hnil := @descriptionParts_eq_nil_iff code message target
  rw [h.explanation_eq_bind, hparts, descriptionLine]
  cases hlist : descriptionParts code message target with
  | nil =>
    rw [if_pos (hnil.1 hlist)]
    rfl
  | cons part parts =>
    rw [if_neg fun hnone => nomatch hlist.symm.trans (hnil.2 hnone)]
    rfl

/-- An error of which a response says something can be described. -/
theorem Holds.exists_describes (h : r.Holds error) {s : String} (hs : r.explanation = .ok s) :
    ∃ code message target, error.Describes code message target := by
  rw [h.explanation_eq_bind] at hs
  obtain ⟨parts, hparts, -⟩ := bind_eq_ok_iff.1 hs
  obtain ⟨code, message, target, hdescribes, -⟩ := Members.errorParts_eq_ok_iff.1 hparts
  exact ⟨code, message, target, hdescribes⟩

/-- **A response says exactly one thing about an error, or nothing.** -/
theorem explained_iff {s : String} : r.Explained s ↔ r.explanation = .ok s := by
  constructor
  · intro h
    cases h with
    | described hholds hdescribes hsome => rw [hholds.explanation_eq hdescribes, if_neg hsome]
    | text hread hnone htext =>
      by_cases hholds : ∃ error, r.Holds error
      · obtain ⟨error, hholds⟩ := hholds
        rw [hholds.explanation_eq (hnone error hholds), if_pos ⟨rfl, rfl, rfl⟩, htext]
      · rw [explanation_of_not_holds hread fun error h => hholds ⟨error, h⟩, htext]
  · intro h
    by_cases hholds : ∃ error, r.Holds error
    · obtain ⟨error, hholds⟩ := hholds
      obtain ⟨code, message, target, hdescribes⟩ := hholds.exists_describes h
      rw [hholds.explanation_eq hdescribes] at h
      split at h
      · rename_i hnone
        obtain ⟨rfl, rfl, rfl⟩ := hnone
        exact .text hholds.document_ne (hholds.forall_iff.2 hdescribes) h
      · rename_i hsome
        cases h
        exact .described hholds hdescribes hsome
    · have hread : r.document ≠ .error .tooDeep := by
        intro hdeep
        rw [explanation, hdeep] at h
        cases h
      rw [explanation_of_not_holds hread fun error h => hholds ⟨error, h⟩] at h
      exact .text hread (fun error herror => absurd ⟨error, herror⟩ hholds) h

/-- A response that says something is not nested too deep. -/
theorem Explained.document_ne {s : String} (h : r.Explained s) : r.document ≠ .error .tooDeep := by
  cases h with
  | described hholds => exact hholds.document_ne
  | text hread => exact hread

/-- A response whose error describes nothing says what its text is. -/
theorem Explained.exists_text {s : String} (h : r.Explained s)
    (hnone : ∀ error, r.Holds error → error.Describes none none none) : ∃ t, r.text = .ok t := by
  cases h with
  | described hholds hdescribes hsome => exact absurd (hdescribes.eq (hnone _ hholds)) hsome
  | text hread hall htext => exact ⟨s, htext⟩

/-- **When a response says something about an error.** -/
theorem exists_explained_iff : (∃ s, r.Explained s) ↔ r.Explicable := by
  constructor
  · rintro ⟨s, h⟩
    exact ⟨h.document_ne, fun error hholds => hholds.exists_describes (explained_iff.1 h),
      h.exists_text⟩
  · intro h
    have htext (hnone : ∀ error, r.Holds error → error.Describes none none none) :
        ∃ s, r.Explained s := by
      obtain ⟨s, hs⟩ := h.text hnone
      exact ⟨s, .text h.document hnone hs⟩
    by_cases hholds : ∃ error, r.Holds error
    · obtain ⟨error, hholds⟩ := hholds
      obtain ⟨code, message, target, hdescribes⟩ := h.shown error hholds
      by_cases hnone : code = none ∧ message = none ∧ target = none
      · obtain ⟨rfl, rfl, rfl⟩ := hnone
        exact htext (hholds.forall_iff.2 hdescribes)
      · exact ⟨_, .described hholds hdescribes hnone⟩
    · exact htext fun other hother => absurd ⟨other, hother⟩ hholds

/-- A response says nothing if something keeps it from being read. -/
theorem not_explicable_iff : ¬ r.Explicable ↔ ∃ cause, r.explanation = .error cause := by
  rw [← exists_explained_iff]
  simp only [explained_iff]
  cases r.explanation <;> simp

/-- A response that is read as documented says something. -/
theorem Legible.explicable (h : r.Legible) : r.Explicable := by
  refine ⟨h.document, ?_, fun _ => h.text⟩
  rintro error ⟨members, hdocument, hlookup⟩
  exact Members.exists_describes (Value.showable_of_lookup (h.shown _ hdocument) "error" hlookup)

theorem Legible.exists_explanation (h : r.Legible) : ∃ s, r.explanation = .ok s := by
  obtain ⟨s, hs⟩ := exists_explained_iff.2 h.explicable
  exact ⟨s, explained_iff.1 hs⟩

/-- A document that a text spells can be shown. -/
theorem showable_of_ofText {s : String} {v : Value} (h : Unreadable.ofText s = .ok v) :
    v.showable = true := by
  unfold Unreadable.ofText at h
  split at h
  · rename_i found hfound
    cases h
    exact Json.showable_of_decodeText hfound
  · cases h
  · cases h

/-- A response in UTF-8 is read as documented unless its body is nested too deep. -/
theorem legible_utf8_iff {status : Int} {body : List UInt8} {headers : Headers} :
    (utf8 status body headers).Legible ↔
      (utf8 status body headers).document ≠ .error .tooDeep :=
  ⟨Legible.document, fun h => ⟨⟨_, rfl⟩, h, fun _ => showable_of_ofText⟩⟩

/-- The layout makes no difference. -/
theorem SameError.explanation_eq {newer older : Response} (h : newer.SameError older) :
    older.explanation = newer.explanation := by
  obtain ⟨this, other, inner, s, hthis, hother, hne, htext, hobject, hvalue, hcode, htarget⟩ := h
  have hmessage : messageOf other = messageOf this := by
    simp only [messageOf, htext, hobject, hvalue, Option.getD_some]
  have hparts : errorParts other = errorParts this := by
    unfold errorParts
    rw [hcode, htarget, hmessage]
  rw [hthis.explanation_eq_bind, hother.explanation_eq_bind, hparts]
  cases hfound : errorParts this with
  | error cause => rfl
  | ok parts =>
    -- the message alone is a part, so neither response falls back on its text
    obtain ⟨code, message, target, hdescribes, rfl⟩ := Members.errorParts_eq_ok_iff.1 hfound
    have hpart : this.GivesMessage (some s) := .text htext hne
    have hsome : message = some s := by
      have hsame := (Members.givesMessage_iff.1 hdescribes.message).symm.trans
        (Members.givesMessage_iff.1 hpart)
      exact Except.ok.inj hsame
    cases hlist : descriptionParts code message target with
    | nil =>
      rw [(descriptionParts_eq_nil_iff.1 hlist).2.1] at hsome
      cases hsome
    | cons part others => rfl

end Response

end OData
