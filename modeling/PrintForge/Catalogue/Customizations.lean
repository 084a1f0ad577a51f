import PrintForge.Catalogue.Uploads
import PrintForge.Text.Strings

/-!
# Customization values

What a customer may submit for a field of a product, and what the value costs. The first part
looks at the value alone; a file that it names is checked against its row afterwards.
-/

namespace PrintForge.Catalogue

open Relational Concurrent JavaScript

structure CustomizationSubmission where
  textValue : Option String
  uploadedFileId : Option Nat
deriving DecidableEq, Repr

/-- A valid value has a surcharge and an invalid one an error. -/
abbrev CustomizationValidationResult := Except String Int

def isFileFieldType : CustomizationFieldType → Bool
  | .logoUpload | .imageUpload | .designFileUpload => true
  | .text | .colorSelect | .instructions => false

def parseFieldConstraints (constraints : Option FieldConstraints) : FieldConstraints :=
  constraints.getD {}

def computeSurchargePaise (field : CustomizationField) (textValue : Option String) : Int :=
  match field.surchargeType with
  | .none => 0
  | .flat => decimalToPaise field.surchargeAmount.toDecimal
  | .perCharacter =>
      decimalToPaise field.surchargeAmount.toDecimal * (textValue.map JavaScript.length).getD 0

/-- The two limits on a text, which has been trimmed. -/
def validateText (field : CustomizationField) (constraints : FieldConstraints)
    (textValue : String) : CustomizationValidationResult :=
  if constraints.maxLength.any (· < JavaScript.length textValue) then
    throw s!"{field.label} must be at most {constraints.maxLength.getD 0} characters"
  else if field.type = .colorSelect &&
      constraints.options.any fun options => !options.isEmpty && !options.contains textValue then
    throw (s!"{field.label} must be one of: " ++ ", ".intercalate (constraints.options.getD []))
  else
    return computeSurchargePaise field (some textValue)

def validateCustomizationFieldShape (field : CustomizationField)
    (submission : CustomizationSubmission) : CustomizationValidationResult :=
  let constraints := parseFieldConstraints field.constraints
  let text := submission.textValue.filter fun s => trim s ≠ ""
  match text, submission.uploadedFileId with
  | none, none => if field.isRequired then throw s!"{field.label} is required" else return 0
  | none, some _ =>
      if isFileFieldType field.type then
        return computeSurchargePaise field none
      else
        throw s!"{field.label} expects a text value"
  | some textValue, file =>
      if isFileFieldType field.type then
        if file.isNone then
          throw s!"{field.label} expects an uploaded file"
        else
          throw s!"{field.label} does not accept a text value"
      else if file.isSome then
        throw s!"{field.label} does not accept an uploaded file"
      else
        validateText field constraints (trim textValue)

/-- What the constraints say of a file. -/
def validateFile (field : CustomizationField) (requestingUserId : Nat) (file : UploadedFile)
    (surchargePaise : Int) : CustomizationValidationResult :=
  let constraints := parseFieldConstraints field.constraints
  if file.uploadedByUserId ≠ requestingUserId then
    throw "You do not own this uploaded file"
  else if constraints.allowedFormats.any fun formats =>
      !formats.isEmpty && !formats.contains file.format then
    throw (s!"{field.label} must be one of: " ++
      ", ".intercalate (constraints.allowedFormats.getD []))
  else if constraints.maxFileSizeMb.any fun size => size * 1024 * 1024 < file.bytes then
    throw s!"{field.label} must be at most {constraints.maxFileSizeMb.getD 0}MB"
  else
    return surchargePaise

/-- `CustomizationValidationService.validate`, in the tenant of the cart. -/
def validate (field : CustomizationField) (submission : CustomizationSubmission)
    (requestingUserId tenantId : Nat) : Service CustomizationValidationResult :=
  match validateCustomizationFieldShape field submission, submission.uploadedFileId with
  | .error e, _ => return .error e
  | .ok surchargePaise, none => return .ok surchargePaise
  | .ok surchargePaise, some uploadedFileId =>
      if isFileFieldType field.type then do
        let file ← findByIdInTenant uploadedFileId tenantId
        match file with
        | none => return .error "Uploaded file not found"
        | some file => return validateFile field requestingUserId file surchargePaise
      else
        return .ok surchargePaise

end PrintForge.Catalogue
