import QueryTemplates.RenderError
import QueryTemplates.Text.Quoted
import QueryTemplates.Value.Basic

/-! # Texts of values

A value has a plain text, which for a text is the text itself, and a shown form, in which texts are
quoted; the members of a collection are written in their shown forms. An integer with too many digits has
neither, and objects and time zones of the caller can fail to tell theirs.
-/

namespace QueryTemplates

/-- The constructor call that a date is shown as. -/
def Date.shown (date : Date) : Text :=
  ("datetime.date(" ++ toString date.year ++ ", " ++ toString date.month ++ ", " ++
    toString date.day ++ ")").toList

/-- The offset that is shown as a constructor call; the day that it lies in is told apart. -/
def DateTime.shownOffset (offset : Int) : Text :=
  if offset = 0 then "datetime.timezone.utc".toList
  else
    let days := offset / 86400
    let seconds := offset % 86400
    let parts := (if days = 0 then [] else ["days=" ++ toString days]) ++
      (if seconds = 0 then [] else ["seconds=" ++ toString seconds])
    ("datetime.timezone(datetime.timedelta(" ++ ", ".intercalate parts ++ "))").toList

/-- The constructor call that a time is shown as, with its zone, if it has one, as that is shown: seconds and
microseconds only where there are some. -/
def DateTime.shownIn (zone : Option Text) (time : DateTime) : Text :=
  let whole := [time.date.year, time.date.month, time.date.day, time.hour, time.minute]
  let fine :=
    if time.microsecond ≠ 0 then [time.second, time.microsecond]
    else if time.second ≠ 0 then [time.second] else []
  let zone := match zone with
    | none => []
    | some zone => ", tzinfo=".toList ++ zone
  ("datetime.datetime(" ++ ", ".intercalate ((whole ++ fine).map toString)).toList ++ zone ++ [')']

/-- The constructor call that a time is shown as. -/
def DateTime.shown (time : DateTime) : Text := time.shownIn (time.offset.map shownOffset)

/-- The time at the offset that its zone answers. -/
def Zone.place (zone : Zone) (time : DateTime) : Except RenderFailure DateTime :=
  (RenderFailure.told zone.offset).map fun offset => { time with offset }

namespace Value

/-- Texts with a comma and a space between them. -/
def commaSeparated (texts : List Text) : Text := Text.joinWith ", ".toList texts

/-- The shown form of a collection, from those of its members. -/
def shownCollection (kind : CollectionKind) (members : List Text) : Text :=
  match kind, members with
  | .list, members => '[' :: commaSeparated members ++ [']']
  | .tuple, [member] => '(' :: member ++ ",)".toList
  | .tuple, members => '(' :: commaSeparated members ++ [')']
  | .set, [] => "set()".toList
  | .set, members => '\x7b' :: commaSeparated members ++ ['\x7d']
  | .frozenSet, [] => "frozenset()".toList
  | .frozenSet, members => "frozenset(\x7b".toList ++ commaSeparated members ++ "\x7d)".toList

/-- The digits of an integer, which may be too long to have any. -/
def intText (value : Int) : Except RenderFailure Text :=
  match Numeral.ofInt? value with
  | some numeral => .ok numeral
  | none => .error .longInteger

theorem intText_eq_ok {value : Int} {text : Text} :
    intText value = .ok text ↔ Numeral.ofInt? value = some text := by
  cases numeral : Numeral.ofInt? value <;> simp [intText, numeral]

theorem intText_eq_error {value : Int} {failure : RenderFailure} :
    intText value = .error failure ↔ Numeral.ofInt? value = none ∧ failure = .longInteger := by
  cases numeral : Numeral.ofInt? value <;> simp [intText, numeral, eq_comm]

mutual

/-- The form in which a value is shown. -/
def shown : Value → Except RenderFailure Text
  | .null => .ok "None".toList
  | .bool true => .ok "True".toList
  | .bool false => .ok "False".toList
  | .int value => intText value
  | .float value => .ok value.text
  | .decimal value => .ok ("Decimal('".toList ++ value.text ++ "')".toList)
  | .text value => .ok (Text.quoted value)
  | .date value => .ok value.shown
  | .dateTime value => .ok value.shown
  | .zonedTime time zone => (RenderFailure.told zone.shown).map fun zone => time.shownIn (some zone)
  | .collection kind members => (shownMembers members).map (shownCollection kind)
  | .record fields => (shownFields fields).map fun texts => '\x7b' :: commaSeparated texts ++ ['\x7d']
  | .object _ _ shown => RenderFailure.told shown

/-- The forms in which values are shown. The first failure counts. -/
def shownMembers : List Value → Except RenderFailure (List Text)
  | [] => .ok []
  | value :: rest =>
    match shown value with
    | .error failure => .error failure
    | .ok first => (shownMembers rest).map (first :: ·)

/-- The forms in which the fields of a record are shown. The first failure counts. -/
def shownFields : List (Text × Value) → Except RenderFailure (List Text)
  | [] => .ok []
  | (name, value) :: rest =>
    match shown value with
    | .error failure => .error failure
    | .ok first => (shownFields rest).map ((Text.quoted name ++ ": ".toList ++ first) :: ·)

end

/-- The plain text of a value. -/
def plainText : Value → Except RenderFailure Text
  | .text value => .ok value
  | .decimal value => .ok value.text
  | .date value => .ok value.iso
  | .dateTime value => .ok value.spaced
  | .zonedTime time zone => (zone.place time).map DateTime.spaced
  | .object _ plain _ => RenderFailure.told plain
  | value => value.shown

/-- The plain text of a value, if it has one. -/
def text? (value : Value) : Option Text := value.plainText.toOption

end Value

end QueryTemplates
