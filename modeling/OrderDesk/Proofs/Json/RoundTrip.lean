import OrderDesk.Catalog.Wire
import OrderDesk.Order.Wire
import OrderDesk.Proofs.Decimal.Exact
import OrderDesk.Proofs.Decimal.Float
import OrderDesk.Proofs.Decimal.Reading
import OrderDesk.Proofs.Json.Numerals
import OrderDesk.Proofs.Timestamp.Text
import OrderDesk.Proofs.Uuid.Spelling

/-!
# What is shown can be read

Orders and products are shown as JSON objects, and read from them.  The members of the object that
is shown are found under the names that are looked for (`Order.record?_toJson`,
`Product.record?_toJson`), and the value of each is read back from what it is written as: the
identifiers, the whole numbers, the lines, the text that may be missing.  An amount travels as a
floating-point number, so it alone may come back as another one.  It is refused only if that number
is `2 ^ 96`, which is too large for a decimal (`Json.decimal?_toFloat`).

* `Order.ofJson?_toJson`, `Product.ofJson?_toJson` — what is read is what was shown, with the amount
  that is read.
* `shown_is_read_back` — therefore nothing but the amount changes, even if it is shown again.
-/

namespace OrderDesk

namespace Json

variable {α : Type}

/-! ## Values -/

theorem uuid?_str (u : Uuid) : uuid? (.str u.text) = some u := by
  rw [uuid?, str, str?, Option.bind_some, Uuid.ofAnySpelling?_text]

/-- Whole numbers of at most 64 bits are read back. -/
theorem bounded?_int {lo hi : Int} (hlow : -9223372036854775808 ≤ lo)
    (hhigh : hi ≤ 18446744073709551615) (a : Bounded lo hi) : bounded? (.int a.val) = some a := by
  have hint : (Json.int a.val).int? = some a.val :=
    Numeral.toInt?_ofInt (Int.le_trans hlow a.lo_le) (Int.le_trans a.le_hi hhigh)
  rw [bounded?, hint, Option.bind_some, Bounded.ofInt?_val]

theorem list?_map {encode : α → Json} {decode : Json → Option α}
    (h : ∀ a, decode (encode a) = some a) (as : List α) :
    list? decode (.array (as.map encode)) = some as := by
  show (as.map encode).mapM decode = some as
  induction as with
  | nil => rfl
  | cons a as ih =>
    rw [List.map_cons, List.mapM_cons, h, ih]
    rfl

/-- A value that may be missing is left out or written like a value that may not. -/
theorem nullable?_map {encode : α → String} {decode : Json → Option α}
    (h : ∀ a, decode (.str (encode a)) = some a) (a : Option α) :
    withDefault? none (nullable? decode) (a.map fun a => .str (encode a)) = some a := by
  cases a with
  | none => rfl
  | some a =>
    have hpresent : nullable? decode (.str (encode a)) = (decode (.str (encode a))).map some := rfl
    rw [Option.map_some, withDefault?, hpresent, h, Option.map_some]

/-! ## Amounts -/

section

open Binary64

/-- Each floating-point number below `2 ^ 96` has a decimal with its digits. -/
theorem exists_ofFloat? {f : Float} {x : Finite} (hf : decode f = .finite x)
    (h : x.magnitude.value < 2 ^ 96) : ∃ d, Decimal.ofFloat? f = some d := by
  obtain ⟨hx, hcarry⟩ := canonical_of_decode hf
  obtain ⟨negative, mantissa, exponent⟩ := x
  have hfinite : isFinite f = true := by rw [isFinite, hf]
  have hdecimal : ((Shortest.decimal .up mantissa exponent).1 : ℚ) *
      10 ^ (Shortest.decimal .up mantissa exponent).2 < 2 ^ 96 - 1 := by
    have hle := (Shortest.decimal_le .up mantissa exponent).trans (hx.half_unit_le hcarry h).1
    exact hle.trans_lt (by norm_num)
  rw [Decimal.ofFloat?, if_pos hfinite, Shortest.chars, hf]
  exact Option.isSome_iff_exists.1 (Decimal.ofPlain?_positional negative hdecimal)

/-- **Each floating-point number below `2 ^ 96` is read as a decimal.** -/
theorem exists_decimal?_float {f : Float} {x : Finite} (hf : decode f = .finite x)
    (h : x.magnitude.value < 2 ^ 96) : ∃ d, decimal? (.float f) = some d := by
  obtain ⟨hx, hcarry⟩ := canonical_of_decode hf
  obtain ⟨y, hy, hcanonical, hvalue⟩ := Numeral.value?_ofFinite hx hcarry h
  obtain ⟨z, hz, hequal⟩ := hcanonical.decode_ofFinite (hcanonical.isFinite hvalue.le) x.negative
  obtain ⟨d, hd⟩ := exists_ofFloat? hz (hequal.trans_lt hvalue)
  have hfinite : isFinite f = true := by rw [isFinite, hf]
  have hnumeral : Numeral.ofFloat f = Numeral.ofFinite x := by rw [Numeral.ofFloat, hf]
  refine ⟨d, ?_⟩
  rw [float, if_pos hfinite, hnumeral, decimal?, hy]
  exact hd

theorem decimal?_float_limit (negative : Bool) :
    decimal? (.float (ofFinite ⟨negative, 2 ^ 53, 43⟩)) = none := by
  cases negative with
  | false => decide +kernel
  | true => decide +kernel

end

/-- **An amount is read back, as whichever decimal, up to half a unit below `2 ^ 96`.** -/
theorem decimal?_toFloat (d : Decimal) :
    (|d.value| < 2 ^ 96 - 2 ^ 42 → ∃ e, decimal? (.float d.toFloat) = some e) ∧
      (2 ^ 96 - 2 ^ 42 ≤ |d.value| → decimal? (.float d.toFloat) = none) := by
  refine ⟨fun h => ?_, fun h => ?_⟩
  · have hvalue := Decimal.binary_lt (Decimal.lt_travelLimit_iff.1 h)
    have hcanonical := d.binary_canonical
    obtain ⟨x, hx, hequal⟩ := hcanonical.decode_ofFinite (hcanonical.isFinite hvalue.le) d.negative
    exact exists_decimal?_float hx (hequal.trans_lt hvalue)
  · have hlimit := not_lt.1 fun hlt => h.not_gt (Decimal.lt_travelLimit_iff.2 hlt)
    rw [Decimal.toFloat, Decimal.binary_eq hlimit]
    exact decimal?_float_limit d.negative

end Json

/-! ## Records -/

namespace LineItem

theorem ofJson?_toJson (i : LineItem) : ofJson? i.toJson = some i := by
  have hrecord : i.toJson.record? [["productId"], ["quantity"]] =
      some [some (.str i.product.text), some (.int i.quantity.val)] := rfl
  have hquantity : Json.bounded? (.int i.quantity.val) = some i.quantity :=
    Json.bounded?_int (by decide) (by decide) i.quantity
  simp only [ofJson?, hrecord, Json.required?, Json.uuid?_str, hquantity, Option.bind_eq_bind,
    Option.bind_some]
  rfl

end LineItem

namespace Order

theorem record?_toJson (o : Order) : o.toJson.record? fields =
    some [some (.str o.id.text), some (.array (o.items.map LineItem.toJson)),
      some (.float o.total.toFloat), some (.str o.status.label), some (.int o.accrued.val),
      some (.str o.placedAt.text), o.owner.map fun u => .str u.text] := by
  unfold toJson
  cases o.owner with
  | none => rfl
  | some u => rfl

/-- An order is read from the values of its fields; the amount alone may be read as another one, or
not at all. -/
theorem ofJson?_of_record {o : Order} {j id items amount status accrued placedAt : Json}
    {owner : Option Json}
    (hrecord : j.record? fields = some [some id, some items, some amount, some status, some accrued,
      some placedAt, owner])
    (hid : Json.uuid? id = some o.id) (hitems : Json.list? LineItem.ofJson? items = some o.items)
    (hstatus : OrderStatus.ofJson? status = some o.status)
    (haccrued : Json.bounded? accrued = some o.accrued)
    (hplacedAt : placedAt.str?.bind Timestamp.ofText? = some o.placedAt)
    (howner : Json.withDefault? none (Json.nullable? Json.uuid?) owner = some o.owner) :
    ofJson? j = (Json.decimal? amount).map fun total => { o with total } := by
  rw [ofJson?, hrecord]
  cases htotal : Json.decimal? amount with
  | none => simp [Json.required?, hid, hitems, htotal]
  | some total =>
    simp [Json.required?, hid, hitems, htotal, hstatus, haccrued, hplacedAt, howner]

theorem ofJson?_toJson {o : Order} (h : o.placedAt.Proper) (hyears : o.placedAt.InFourDigits) :
    ofJson? o.toJson =
      (Json.decimal? (.float o.total.toFloat)).map fun total => { o with total } := by
  have hplacedAt : (Json.str o.placedAt.text).str?.bind Timestamp.ofText? = some o.placedAt := by
    rw [Json.str, Json.str?, Option.bind_some, Timestamp.ofText?_text h hyears]
  exact ofJson?_of_record (record?_toJson o) (Json.uuid?_str o.id)
    (Json.list?_map LineItem.ofJson?_toJson o.items) (OrderStatus.ofLabel?_label o.status)
    (Json.bounded?_int (by decide) (by decide) o.accrued) hplacedAt
    (Json.nullable?_map Json.uuid?_str o.owner)

end Order

namespace Product

theorem record?_toJson (p : Product) : p.toJson.record? fields =
    some [some (.str p.id.text), some (.str p.name), p.description.map .str,
      some (.float p.price.toFloat), p.category.map .str, some (.bool p.available)] := by
  unfold toJson
  cases p.description with
  | none => cases p.category with
    | none => rfl
    | some c => rfl
  | some d => cases p.category with
    | none => rfl
    | some c => rfl

/-- A product is read from the values of its fields; the amount alone may be read as another one,
or not at all. -/
theorem ofJson?_of_record {p : Product} {j id name amount available : Json}
    {description category : Option Json}
    (hrecord : j.record? fields = some [some id, some name, description, some amount, category,
      some available])
    (hid : Json.uuid? id = some p.id) (hname : name.str? = some p.name)
    (hdescription : Json.withDefault? none (Json.nullable? Json.str?) description =
      some p.description)
    (hcategory : Json.withDefault? none (Json.nullable? Json.str?) category = some p.category)
    (havailable : available.bool? = some p.available) :
    ofJson? j = (Json.decimal? amount).map fun price => { p with price } := by
  rw [ofJson?, hrecord]
  cases hprice : Json.decimal? amount with
  | none => simp [Json.required?, hid, hname, hdescription, hprice]
  | some price =>
    simp [Json.required?, hid, hname, hdescription, hprice, hcategory, havailable]

theorem ofJson?_toJson (p : Product) :
    ofJson? p.toJson =
      (Json.decimal? (.float p.price.toFloat)).map fun price => { p with price } := by
  have hstr (s : String) : (Json.str s).str? = some s := rfl
  exact ofJson?_of_record (record?_toJson p) (Json.uuid?_str p.id) (hstr p.name)
    (Json.nullable?_map hstr p.description) (Json.nullable?_map hstr p.category) rfl

end Product

namespace Json

/-! ## Round trips -/

/-- The members of an object but for those of one name. -/
def membersBut (name : String) : Json → List (Json.StringValue × Json)
  | .object members => members.filter fun m => m.1 != some name
  | _ => []

@[simp] theorem membersBut_obj (name : String) (members : List (String × Json)) :
    (obj members).membersBut name =
      (members.filter fun m => m.1 != name).map fun m => (some m.1, m.2) := by
  have hsome (a : String) : (some a != some name) = (a != name) := by
    rw [bne, bne, Option.some_beq_some]
  simp only [obj, membersBut, List.filter_map, Function.comp_def, hsome]

theorem membersBut_order (o : Order) (total : Decimal) :
    { o with total }.toJson.membersBut "totalPrice" = o.toJson.membersBut "totalPrice" := by
  simp only [Order.toJson, membersBut_obj, List.filter_append, List.filter_cons]
  simp

theorem membersBut_product (p : Product) (price : Decimal) :
    { p with price }.toJson.membersBut "price" = p.toJson.membersBut "price" := by
  simp only [Product.toJson, membersBut_obj, List.filter_append, List.filter_cons]
  simp

end Json

/-- **What is shown can be read.**  An order is read back, and so is a product, unless the amount is
`2 ^ 96` as a floating-point number; nothing but the amount can be different then, neither in the
value nor when it is shown once more. -/
theorem shown_is_read_back :
    (∀ o : Order, o.placedAt.Proper → o.placedAt.InFourDigits →
      (|o.total.value| < 2 ^ 96 - 2 ^ 42 →
        ∃ total, Json.decimal? (.float o.total.toFloat) = some total ∧
          Order.ofJson? o.toJson = some { o with total } ∧
          { o with total }.toJson.membersBut "totalPrice" = o.toJson.membersBut "totalPrice") ∧
      (2 ^ 96 - 2 ^ 42 ≤ |o.total.value| → Order.ofJson? o.toJson = none)) ∧
    ∀ p : Product,
      (|p.price.value| < 2 ^ 96 - 2 ^ 42 →
        ∃ price, Json.decimal? (.float p.price.toFloat) = some price ∧
          Product.ofJson? p.toJson = some { p with price } ∧
          { p with price }.toJson.membersBut "price" = p.toJson.membersBut "price") ∧
      (2 ^ 96 - 2 ^ 42 ≤ |p.price.value| → Product.ofJson? p.toJson = none) := by
  refine ⟨fun o h hyears => ⟨fun hlt => ?_, fun hge => ?_⟩, fun p => ⟨fun hlt => ?_, fun hge => ?_⟩⟩
  · obtain ⟨total, htotal⟩ := (Json.decimal?_toFloat o.total).1 hlt
    refine ⟨total, htotal, ?_, Json.membersBut_order o total⟩
    rw [Order.ofJson?_toJson h hyears, htotal, Option.map_some]
  · rw [Order.ofJson?_toJson h hyears, (Json.decimal?_toFloat o.total).2 hge, Option.map_none]
  · obtain ⟨price, hprice⟩ := (Json.decimal?_toFloat p.price).1 hlt
    refine ⟨price, hprice, ?_, Json.membersBut_product p price⟩
    rw [Product.ofJson?_toJson, hprice, Option.map_some]
  · rw [Product.ofJson?_toJson, (Json.decimal?_toFloat p.price).2 hge, Option.map_none]

/-- An order of nobody, placed in a leap second, with a total of 1299.99. -/
def Order.inLeapSecond : Order :=
  ⟨.nil, [⟨.nil, ⟨12, by decide, by decide⟩⟩], .ofHundredths 129999, .pending, .zero,
    ⟨17166, 86399, 1000000007⟩, none⟩

theorem shown_is_read_back_in_leap_second :
    Order.inLeapSecond.placedAt.Proper ∧ Order.inLeapSecond.placedAt.InFourDigits ∧
      |Order.inLeapSecond.total.value| < 2 ^ 96 - 2 ^ 42 ∧
      Order.ofJson? Order.inLeapSecond.toJson = some Order.inLeapSecond := by
  have hproper : Order.inLeapSecond.placedAt.Proper := ⟨by decide, Or.inr (by decide)⟩
  have hyears : Order.inLeapSecond.placedAt.InFourDigits := ⟨by decide +kernel, by decide +kernel⟩
  have hlimit : |Order.inLeapSecond.total.value| < 2 ^ 96 - 2 ^ 42 :=
    Decimal.lt_travelLimit_iff.2 (by decide +kernel)
  have hread : Json.decimal? (.float Order.inLeapSecond.total.toFloat) =
      some Order.inLeapSecond.total := by decide +kernel
  obtain ⟨total, htotal, horder, -⟩ :=
    (shown_is_read_back.1 Order.inLeapSecond hproper hyears).1 hlimit
  rw [hread] at htotal
  cases htotal
  exact ⟨hproper, hyears, hlimit, horder⟩

/-- The greatest decimal travels as two to the power of 96, which is too large for a decimal. -/
def Decimal.greatest : Decimal := ⟨false, Nat.pow 2 96 - 1, 0, by decide, Decimal.zero.scale_le⟩

/-- Without its conditions the statement fails: an amount may be too large once it has become a
floating-point number, and a leap second in the midst of a minute is written as the next second. -/
theorem shown_need_not_be_read_back :
    Order.ofJson? { Order.inLeapSecond with total := Decimal.greatest }.toJson = none ∧
      Product.ofJson? (Product.toJson ⟨.nil, "P", none, Decimal.greatest, none, true⟩) = none ∧
      (Order.ofJson? { Order.inLeapSecond with placedAt := ⟨0, 5, 1000000000⟩ }.toJson).map
        Order.placedAt = some ⟨0, 6, 0⟩ := by
  have hgreatest : Json.decimal? (.float Decimal.greatest.toFloat) = none := by decide +kernel
  refine ⟨?_, ?_, by decide +kernel⟩
  · rw [Order.ofJson?_toJson ⟨by decide, Or.inr (by decide)⟩ ⟨by decide +kernel, by decide +kernel⟩,
      hgreatest, Option.map_none]
  · rw [Product.ofJson?_toJson, hgreatest, Option.map_none]

end OrderDesk
