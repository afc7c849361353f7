import MusicianGraph.Model.Place

/-! # Profile updates

An update names the fields of a profile that are to be written. A field that is not named is kept,
a field that is null is cleared. -/

namespace MusicianGraph

/-- What an update does to one field. -/
inductive Edit (α : Type) where
  | keep
  | clear
  | set (a : α)
deriving DecidableEq, Repr

namespace Edit

variable {α : Type}

/-- The value that is written, null for a cleared field; nothing if the field is kept. -/
def written? (f : α → Value) : Edit α → Option Value
  | keep => none
  | clear => some .null
  | set a => some (f a)

/-- Read an edit from a field that may be missing. -/
def ofField (r : Record) (name : String) (read : Value → Reading α) : Reading (Edit α) :=
  Schema.defaulted r name keep fun
    | .null => .accepted clear
    | v => (read v).map set

end Edit

/-- What is to be done to the fields of a profile. -/
structure ProfileUpdate where
  name : Edit String
  bio : Edit String
  avatarUrl : Edit String
  genres : Edit (List String)
  instruments : Edit (List String)
  location : Edit GeoPoint
  hourRate : Edit Float
  soloArtist : Edit Bool

namespace ProfileUpdate

open Schema Edit in
/-- Read an update from the fields of an object. -/
def ofRecord (r : Record) : Reading ProfileUpdate :=
  ProfileUpdate.mk
    <$> ofField r "name" text
    <*> ofField r "bio" text
    <*> ofField r "avatar_url" text
    <*> ofField r "genres" texts
    <*> ofField r "instruments" texts
    <*> ofField r "location" GeoPoint.read
    <*> ofField r "hour_rate" (floatBetween (some 0) none)
    <*> ofField r "solo_artist" bool

def read : Value → Reading ProfileUpdate := Schema.fields "ProfileUpdate" ofRecord

/-- The fields with what is written into them, if anything. -/
def edits (u : ProfileUpdate) : List (String × Option Value) := [
  ("name", u.name.written? .text),
  ("bio", u.bio.written? .text),
  ("avatar_url", u.avatarUrl.written? .text),
  ("genres", u.genres.written? .ofTexts),
  ("instruments", u.instruments.written? .ofTexts),
  ("location", u.location.written? GeoPoint.dump),
  ("hour_rate", u.hourRate.written? .float),
  ("solo_artist", u.soloArtist.written? .bool)]

/-- The fields that are written, with their values. -/
def changes (u : ProfileUpdate) : Record :=
  u.edits.filterMap fun (name, written) => written.map fun v => (name, v)

/-- An update as an object; kept fields are null. -/
def dump (u : ProfileUpdate) : Value :=
  .object (u.edits.map fun (name, written) => (name, written.getD .null))

def schema : Schema ProfileUpdate := ⟨"ProfileUpdate", read, dump⟩

end ProfileUpdate

end MusicianGraph
