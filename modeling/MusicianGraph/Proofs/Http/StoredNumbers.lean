import MusicianGraph.Proofs.Http.Edits
import MusicianGraph.Proofs.Number.OrderKey

/-! # Which numbers an edit stores

The coordinates of an edit are bounded on both sides, and its rate only from below. So the numbers
that are sent are finite, but for a rate that is infinite; such a rate is accepted and sent, and a
profile that was fit for JSON before is not fit for it afterwards. -/

namespace MusicianGraph

open Schema Conversation

section Numbers

variable {x : Float}

/-- No key is above that of infinity. -/
theorem orderKey_le_infinity (defined : x.isNaN = false) : orderKey x ≤ 2047 * 2 ^ 52 := by
  obtain ⟨range, same⟩ := orderKey_spec defined
  rw [same]
  cases unpacked : x.toModel.unpack with
  | infinity s => cases s <;> simp [Unpacked.key, Float.Model.UnpackedFloat.Sign.apply]
  | notANumber => simp [Unpacked.key]
  | zero s => simp [Unpacked.key]
  | finite s m e positive =>
    rw [unpacked] at range
    obtain ⟨least, most, small, leading⟩ := range
    cases s <;> simp only [Unpacked.key, Float.Model.UnpackedFloat.Sign.apply] <;> omega

/-- A number that is not below zero is finite unless it is infinity. -/
theorem infinite_of_not_finite (positive : Float.ofInt 0 ≤ x)
    (unbounded : isFiniteNumber x = false) : Binary64.ofFloat x = .infinite false := by
  obtain ⟨zero, defined⟩ := isNaN_of_le positive
  have least : orderKey (Float.ofInt 0) = 0 := by decide +kernel
  have above := (orderKey_le_iff zero defined).mpr positive
  have below := orderKey_le_infinity defined
  have outside := (isFiniteNumber_iff_key x).not.mp (Bool.eq_false_iff.mp unbounded)
  have key : orderKey x = 2047 * 2 ^ 52 := by omega
  have bits : x.toBits.toNat = 2047 * 2 ^ 52 := by
    have bound := x.toBits.toBitVec.isLt
    change x.toBits.toNat < 2 ^ 64 at bound
    change Binary64.signed (x.toBits.toNat / 2 ^ 63 == 1) (x.toBits.toNat % 2 ^ 63) = _ at key
    rw [Binary64.signed] at key
    generalize x.toBits.toNat = bits at bound key ⊢
    split_ifs at key with negative
    · omega
    · rw [beq_iff_eq] at negative
      omega
  rw [Binary64.ofFloat, bits]
  rfl

end Numbers

section Written

theorem haveWritable_iff {fields : Record} :
    Value.haveWritable fields = true ↔ ∀ field ∈ fields, field.2.isWritable = true := by
  induction fields with
  | nil => simp [Value.haveWritable]
  | cons field rest ih =>
    rw [Value.haveWritable, Bool.and_eq_true, ih, List.forall_mem_cons]

theorem haveWritable_append (front back : Record) :
    Value.haveWritable (front ++ back) = true ↔
      Value.haveWritable front = true ∧ Value.haveWritable back = true := by
  simp only [haveWritable_iff, List.forall_mem_append]

/-- If the names are all different, the fields can be looked up. -/
theorem haveWritable_iff_get? {fields : Record} (different : fields.names.Nodup) :
    Value.haveWritable fields = true ↔
      ∀ name v, fields.get? name = some v → v.isWritable = true := by
  rw [haveWritable_iff]
  constructor
  · intro all name v found
    exact all (name, v) (Record.mem_of_get? found)
  · intro all field listed
    exact all field.1 field.2 (Record.get?_of_mem different listed)

theorem isWritable_ofTexts (texts : List String) : (Value.ofTexts texts).isWritable = true := by
  rw [Value.ofTexts, Value.isWritable]
  induction texts with
  | nil => rfl
  | cons s rest ih => simpa [Value.areWritable, Value.isWritable] using ih

theorem isWritable_ofOption_text (s : Option String) :
    (Value.ofOption .text s).isWritable = true := by
  cases s <;> rfl

/-- The coordinates of a place are fit for JSON. -/
theorem haveWritable_coordinateParams (location : Option GeoPoint) :
    Value.haveWritable (coordinateParams location) = true := by
  cases location with
  | none => rfl
  | some p =>
    have latitude := isFiniteNumber_of_isLatitude p.latitude_valid
    have longitude := isFiniteNumber_of_isLongitude p.longitude_valid
    simp [coordinateParams, Value.haveWritable, Value.isWritable, latitude, longitude]

theorem isWritable_location (location : Option GeoPoint) :
    (Value.ofOption GeoPoint.dump location).isWritable = true := by
  cases location with
  | none => rfl
  | some p => exact haveWritable_coordinateParams (some p)

theorem isWritable_rate_iff (rate : Option Float) :
    (Value.ofOption .float rate).isWritable = true ↔ ∀ x ∈ rate, isFiniteNumber x = true := by
  cases rate <;> simp [Value.ofOption, Value.isWritable]

/-- A profile is fit for JSON unless its rate is not finite. -/
theorem UserProfile.isWritable_dump_iff (p : UserProfile) :
    p.dump.isWritable = true ↔ ∀ x ∈ p.hourRate, isFiniteNumber x = true := by
  rw [dump, ← isWritable_rate_iff]
  simp [Value.isWritable, Value.haveWritable, isWritable_ofOption_text, isWritable_ofTexts,
    isWritable_location]

end Written

section Rates

variable {body : Record}

/-- The rate in a body is read as infinity. -/
def RatesInfinitely (body : Record) : Prop :=
  ∃ v x, body.get? "hour_rate" = some v ∧ float v = .accepted x ∧
    Binary64.ofFloat x = .infinite false

/-- A rate that is accepted is finite unless it is read as infinity. -/
theorem finite_rate_iff {e : Edit Float}
    (accepted : Edit.ofField body "hour_rate" (floatBetween (some 0) none) = .accepted e) :
    (∀ x, e = .set x → isFiniteNumber x = true) ↔ ¬ RatesInfinitely body := by
  rcases Edit.cases_of_ofField accepted with
    ⟨missing, rfl⟩ | ⟨null, rfl⟩ | ⟨v, a, given, -, taken, rfl⟩
  · refine iff_of_true nofun ?_
    rintro ⟨v, x, found, -⟩
    rw [missing] at found
    cases found
  · refine iff_of_true nofun ?_
    rintro ⟨v, x, found, read, -⟩
    rw [null] at found
    cases found
    cases read
  · obtain ⟨read, -, bounded⟩ := floatBetween_accepted_iff.mp taken
    have positive := bounded 0 rfl
    constructor
    · rintro finite ⟨w, x, found, read', infinite⟩
      cases given.symm.trans found
      cases read.symm.trans read'
      have here := finite a rfl
      rw [isFiniteNumber, infinite] at here
      cases here
    · rintro never x ⟨⟩
      by_contra unbounded
      have infinite := infinite_of_not_finite positive (Bool.eq_false_iff.mpr unbounded)
      exact never ⟨v, a, given, read, infinite⟩

end Rates

section Statements

/-- What is sent of a field is what is written for null or for a value that was read. -/
theorem SentAs.cases_of_sent {α : Type} {read : Value → Reading α} {write : Option α → Value}
    {given sent : Option Value} (fields : SentAs read write given sent) {v : Value}
    (found : sent = some v) :
    v = write none ∨ ∃ w a, read w = .accepted a ∧ v = write (some a) := by
  rcases given with _ | w
  · rw [fields.absent rfl] at found
    cases found
  · by_cases null : w = .null
    · rw [fields.null (congrArg some null)] at found
      exact .inl (Option.some.inj found).symm
    · obtain ⟨a, taken, same⟩ := fields.value w rfl null
      rw [same] at found
      exact .inr ⟨w, a, taken, (Option.some.inj found).symm⟩

theorem SentAs.isWritable {α : Type} {read : Value → Reading α} {write : Option α → Value}
    {given sent : Option Value} (fields : SentAs read write given sent)
    (all : ∀ a?, (write a?).isWritable = true) {v : Value} (found : sent = some v) :
    v.isWritable = true := by
  rcases fields.cases_of_sent found with rfl | ⟨-, a, -, rfl⟩
  · exact all none
  · exact all (some a)

theorem Profiles.isWritable_sentTags (tags : Option (List String)) :
    (sentTags tags).isWritable = true := by
  cases tags with
  | none => rfl
  | some tags => exact isWritable_ofTexts _

namespace Profiles

variable {body props : Record} {u : ProfileUpdate} {userId : String} {s : Statement}

/-- The properties that are sent are fit for JSON unless the rate is not finite. -/
theorem haveWritable_props_iff (touches : Touches userId body s props)
    (rate : props.get? "hour_rate" = u.hourRate.written? .float) :
    Value.haveWritable props = true ↔ ∀ x, u.hourRate = .set x → isFiniteNumber x = true := by
  have different : props.names.Nodup := by
    rw [touches.names]
    exact List.Nodup.filter _ (by decide)
  rw [haveWritable_iff_get? different]
  constructor
  · intro all x same
    rw [same] at rate
    exact all "hour_rate" (.float x) rate
  · intro finite name v found
    have listed : name ∈ properties := by
      have named : name ∈ props.names := List.mem_map.mpr ⟨_, Record.mem_of_get? found, rfl⟩
      rw [touches.names] at named
      exact (List.mem_filter.mp named).1
    simp only [properties, List.mem_cons, List.not_mem_nil, or_false] at listed
    rcases listed with rfl | rfl | rfl | rfl | rfl | rfl | rfl
    · exact touches.name.isWritable isWritable_ofOption_text found
    · exact touches.bio.isWritable isWritable_ofOption_text found
    · exact touches.avatarUrl.isWritable isWritable_ofOption_text found
    · exact touches.genres.isWritable isWritable_sentTags found
    · exact touches.instruments.isWritable isWritable_sentTags found
    · rw [rate] at found
      cases edited : u.hourRate with
      | keep =>
        rw [edited] at found
        cases found
      | clear =>
        rw [edited] at found
        cases found
        rfl
      | set x =>
        rw [edited] at found
        cases found
        exact finite x edited
    · refine touches.soloArtist.isWritable ?_ found
      rintro (_ | _) <;> rfl

/-- The parameters that are sent are fit for JSON unless the rate is not finite. -/
theorem writable_params_iff (accepted : ProfileUpdate.read (.object body) = .accepted u)
    (written : updateStatement (.text userId) u.changes = .ok s) :
    (Value.object s.params).isWritable = true ↔
      ∀ x, u.hourRate = .set x → isFiniteNumber x = true := by
  obtain ⟨props, touches⟩ := touches_of_accepted accepted written
  obtain ⟨sent, location, success, located, rfl⟩ := updateStatement_ok written
  obtain rfl : sent = props := Value.object.inj (Option.some.inj touches.sent)
  have rate : sent.get? "hour_rate" = u.hourRate.written? .float :=
    (get?_plain success (by decide) rfl).trans (u.get?_changes "hour_rate")
  have place : Value.haveWritable (location.getD []) = true := by
    rw [writtenLocation_changes] at located
    cases located
    cases u.location with
    | keep => rfl
    | clear => exact haveWritable_coordinateParams none
    | set p => exact haveWritable_coordinateParams (some p)
  rw [← haveWritable_props_iff touches rate, Value.isWritable, haveWritable_append]
  simp [Value.haveWritable, Value.isWritable, place]

/-- A profile that was fit for JSON is read back after an update, and it is fit for JSON unless the
rate that it was given is not finite. -/
theorem readBack_isWritable_iff {before after : Record} {p : UserProfile}
    (written : updateStatement (.text userId) u.changes = .ok s)
    (readable : (Stored.profile before).outcome = .ok p) (fit : p.dump.isWritable = true)
    (overlaid : Overlaid s.params before after) :
    ∃ q, (Stored.profile after).outcome = .ok q ∧
      (q.dump.isWritable = true ↔ ∀ x, u.hourRate = .set x → isFiniteNumber x = true) := by
  refine ⟨u.applyTo p, Profiles.readBack written readable overlaid, ?_⟩
  rw [UserProfile.isWritable_dump_iff] at fit ⊢
  change (∀ x ∈ u.hourRate.over p.hourRate none some, _) ↔ _
  cases u.hourRate with
  | keep => exact iff_of_true fit nofun
  | clear => exact iff_of_true nofun nofun
  | set x => simp [Edit.over]

/-- The numbers in the statement of an edit. Its rate is not negative and its coordinates are
finite; all of its numbers are finite, and so are those of the profile that is read back, exactly if
the rate in the body is not read as infinity. -/
structure SendsNumbers (body : Record) (s : Statement) : Prop where
  rate : ∀ v, (rowOf (s.params.getOrNull "props")).get? "hour_rate" = some v →
    v = .null ∨ ∃ x, v = .float x ∧ Float.ofInt 0 ≤ x
  coordinates : ∀ name ∈ ["latitude", "longitude"], ∀ v, s.params.get? name = some v →
    v = .null ∨ ∃ x, v = .float x ∧ isFiniteNumber x = true
  writable_iff : (Value.object s.params).isWritable = true ↔ ¬ RatesInfinitely body
  readBack : ∀ {before after p}, (Stored.profile before).outcome = .ok p →
    p.dump.isWritable = true → Overlaid s.params before after →
    ∃ q, (Stored.profile after).outcome = .ok q ∧
      (q.dump.isWritable = true ↔ ¬ RatesInfinitely body)

theorem sendsNumbers_of_accepted (accepted : ProfileUpdate.read (.object body) = .accepted u)
    (written : updateStatement (.text userId) u.changes = .ok s) : SendsNumbers body s := by
  obtain ⟨props, touches⟩ := touches_of_accepted accepted written
  obtain ⟨-, -, -, -, -, -, hourRate, -⟩ := (ProfileUpdate.ofRecord_accepted_iff body u).mp accepted
  have finite := finite_rate_iff hourRate
  constructor
  case rate =>
    intro v found
    have row : rowOf (s.params.getOrNull "props") = props :=
      congrArg (fun v? => rowOf (v?.getD .null)) touches.sent
    rw [row] at found
    rcases touches.hourRate.cases_of_sent found with rfl | ⟨w, x, read, rfl⟩
    · exact .inl rfl
    · obtain ⟨-, -, positive⟩ := floatBetween_accepted_iff.mp read
      exact .inr ⟨x, rfl, positive 0 rfl⟩
  case coordinates =>
    intro name listed v found
    simp only [List.mem_cons, List.not_mem_nil, or_false] at listed
    rcases listed with rfl | rfl
    · rcases touches.latitude.cases_of_sent found with rfl | ⟨w, p, -, rfl⟩
      · exact .inl rfl
      · exact .inr ⟨p.latitude, rfl, isFiniteNumber_of_isLatitude p.latitude_valid⟩
    · rcases touches.longitude.cases_of_sent found with rfl | ⟨w, p, -, rfl⟩
      · exact .inl rfl
      · exact .inr ⟨p.longitude, rfl, isFiniteNumber_of_isLongitude p.longitude_valid⟩
  case writable_iff => exact (writable_params_iff accepted written).trans finite
  case readBack =>
    intro before after p readable fit overlaid
    obtain ⟨q, read, writable⟩ := readBack_isWritable_iff written readable fit overlaid
    exact ⟨q, read, writable.trans finite⟩

end Profiles

end Statements

namespace Api

section Requests

variable {request : Request} {userId : String}

/-- What is accepted of a body was read off the value in it. -/
theorem payload_of_bodyOf {α : Type} {schema : Schema α} {a : α}
    (accepted : bodyOf schema request = some a) :
    ∃ v, request.payload = .ok v ∧ schema.read v = .accepted a := by
  rw [bodyOf, Request.readBody?] at accepted
  cases payload : request.payload with
  | error fault =>
    rw [payload] at accepted
    cases fault <;> cases accepted
  | ok v =>
    refine ⟨v, rfl, ?_⟩
    rw [payload] at accepted
    cases read : schema.read v with
    | accepted b =>
      simp only [read] at accepted
      exact congrArg Reading.accepted (Option.some.inj accepted)
    | rejected problems =>
      simp only [read] at accepted
      cases accepted
    | stopped kind =>
      simp only [read] at accepted
      cases accepted

/-- The answer is a refusal, and nothing has been sent. -/
structure IsRefusal (r : Run Response) : Prop where
  unsent : r.statements = []
  status : ∃ n ∈ [400, 422, 500], r.status? = some n

/-- A body that is not accepted is refused: as invalid data, as a bad request if it cannot be taken
apart, and by a failure if what is wrong with it cannot be written. -/
theorem isRefusal_withBody {α : Type} {schema : Schema α} (refused : bodyOf schema request = none)
    (next : α → Conversation Response) (graph : Graph) (threshold : LogLevel) (count : Nat) :
    IsRefusal (((withBody schema request next).recover fun f => some (pure (.failed f))).run
      graph threshold count) := by
  rw [bodyOf] at refused
  rw [withBody]
  generalize request.readBody? schema = reading? at refused
  rcases reading? with _ | a | problems | kind
  · exact ⟨rfl, 400, by decide, rfl⟩
  · cases refused
  · refine ⟨rfl, ?_⟩
    change ∃ n ∈ [400, 422, 500], some (Response.invalid problems).status = some n
    rw [Response.invalid]
    split
    · exact ⟨422, by decide, rfl⟩
    · exact ⟨500, by decide, rfl⟩
  · exact ⟨rfl, 500, by decide, rfl⟩

/-- An edit without changes is a bad request. -/
theorem isRefusal_editUser {u : ProfileUpdate} (unchanged : u.changes = []) (userId : String)
    (graph : Graph) (threshold : LogLevel) (count : Nat) :
    IsRefusal (((editUser userId u).recover fun f => some (pure (.failed f))).run
      graph threshold count) := by
  rw [editUser, Profiles.update, unchanged, Profiles.updateStatement_nil]
  exact ⟨rfl, 400, by decide, rfl⟩

/-- An edit is refused, or it sends one statement, which has the numbers as above: a rate that is not
negative and finite coordinates, and nothing but finite numbers exactly if the rate in the body is
not read as infinity. -/
theorem edit_sendsNumbers (settings : Settings)
    (routed : Route.destination request.method (Percent.decode request.path) =
      .endpoint .editUser [userId]) (graph : Graph) (threshold : LogLevel) (count : Nat) :
    (∃ body s, request.payload = .ok (.object body) ∧
      ((handle settings request).run graph threshold count).statements = [s] ∧
      Profiles.SendsNumbers body s) ∨
      IsRefusal ((handle settings request).run graph threshold count) := by
  rw [handle_of_routed request settings routed]
  rcases withBody_cases request ProfileUpdate.schema (editUser userId) with
    ⟨u, given, same⟩ | ⟨refused, -⟩
  · have answered : answer settings request .editUser [userId] = editUser userId u := same
    obtain ⟨v, payload, read⟩ := payload_of_bodyOf given
    obtain ⟨body, rfl, -⟩ := fields_accepted_iff.mp read
    rw [answered]
    by_cases unchanged : u.changes = []
    · exact .inr (isRefusal_editUser unchanged userId graph threshold count)
    · obtain ⟨s, written⟩ := Profiles.exists_updateStatement (.text userId) unchanged
      refine .inl ⟨body, s, payload, ?_, Profiles.sendsNumbers_of_accepted read written⟩
      rw [(run_failing graph threshold count _).1, statements_editUser]
      exact ((Profiles.update_isExchange _ _).sent written graph threshold count).1
  · exact .inr (isRefusal_withBody refused (editUser userId) graph threshold count)

end Requests

section Samples

def infiniteRateRequest : Request where
  method := "PATCH"
  path := "/api/users/me"
  body := "\x7b\"hour_rate\":\"inf\"\x7d"

def infiniteRateBody : Record := [("hour_rate", .text "inf")]

/-- The texts in a body of this shape. -/
def infiniteRateParts? : Except Request.BodyFault Value → Option (String × String)
  | .ok (.object [(name, .text rate)]) => some (name, rate)
  | _ => none

theorem infiniteRateRequest_payload :
    infiniteRateRequest.payload = .ok (.object infiniteRateBody) := by
  have parts : infiniteRateParts? infiniteRateRequest.payload = some ("hour_rate", "inf") := by
    decide +kernel
  unfold infiniteRateParts? at parts
  split at parts
  · next same =>
    cases parts
    exact same
  · cases parts

def infiniteRateUpdate : ProfileUpdate :=
  ⟨.keep, .keep, .keep, .keep, .keep, .keep, .set (1.0 / 0.0), .keep⟩

def infiniteRateStatement : Statement where
  text := Profiles.updateText false
  params := [("user_id", .text "me"), ("props", .object [("hour_rate", .float (1.0 / 0.0))])]

/-- A graph that answers with the updated user. -/
def infiniteRateGraph : Graph := .ofReplies [.rows [
  [("user_id", .text "me"), ("username", .text "me"), ("hour_rate", .float (1.0 / 0.0))]]]

theorem infiniteRateUpdate_accepted :
    ProfileUpdate.read (.object infiniteRateBody) = .accepted infiniteRateUpdate := rfl

theorem infiniteRateRequest_asks : AsksForEdit infiniteRateRequest "me" infiniteRateBody where
  routed := by decide +kernel
  sent := infiniteRateRequest_payload
  accepted := ⟨infiniteRateUpdate, infiniteRateUpdate_accepted⟩

theorem handle_infiniteRate : handle .standard infiniteRateRequest =
    (editUser "me" infiniteRateUpdate).recover fun f => some (pure (.failed f)) :=
  infiniteRateRequest_asks.handle_eq infiniteRateUpdate_accepted .standard

theorem infiniteRateStatement_written :
    Profiles.updateStatement (.text "me") infiniteRateUpdate.changes =
      .ok infiniteRateStatement := by
  have known : Profiles.unknownFields infiniteRateUpdate.changes = [] := List.mergeSort_nil
  rw [Profiles.updateStatement, known]
  rfl

theorem statements_infiniteRate :
    ((handle .standard infiniteRateRequest).run infiniteRateGraph .info 0).statements =
      [infiniteRateStatement] := by
  rw [handle_infiniteRate, editUser, Profiles.update, infiniteRateStatement_written]
  rfl

theorem edit_sendsNumbers_infiniteRate :
    Route.destination infiniteRateRequest.method (Percent.decode infiniteRateRequest.path) =
        .endpoint .editUser ["me"] ∧
      ∃ body s, infiniteRateRequest.payload = .ok (.object body) ∧
        ((handle .standard infiniteRateRequest).run infiniteRateGraph .info 0).statements = [s] ∧
        Profiles.SendsNumbers body s := by
  have routed := infiniteRateRequest_asks.routed
  refine ⟨routed, ?_⟩
  rcases edit_sendsNumbers .standard routed infiniteRateGraph .info 0 with sends | refusal
  · exact sends
  · cases statements_infiniteRate.symm.trans refusal.unsent

/-- The rate is accepted and sent, and the answer holds a number that JSON does not have. -/
theorem exists_infinite_rate_stored : ∃ s r v,
    ((handle .standard infiniteRateRequest).run infiniteRateGraph .info 0).statements = [s] ∧
      (Value.object s.params).isWritable = false ∧
      ((handle .standard infiniteRateRequest).run infiniteRateGraph .info 0).outcome = .ok r ∧
      r.status = 200 ∧ r.content = .json v ∧ v.isWritable = false := by
  rw [handle_infiniteRate, editUser, Profiles.update, infiniteRateStatement_written]
  refine ⟨infiniteRateStatement, _, _, rfl, ?_, rfl, rfl, rfl, ?_⟩
  · decide +kernel
  · decide +kernel

end Samples

end Api

end MusicianGraph
