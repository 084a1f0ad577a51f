import PrintForge.Catalogue.Schema

/-!
# Uploads

A file goes to the file store first, and its row is written afterwards. A product photo of an
admin is delivered openly; anything else is delivered through signed links only.
-/

namespace PrintForge.Catalogue

open Relational Concurrent

/-- The links of the file store: of a public id, a resource type and a delivery type, signed or
not. -/
structure Cloudinary where
  url : String → String → String → Bool → String

def Cloudinary.signedUrl (cloudinary : Cloudinary) (publicId resourceType deliveryType : String) :
    String :=
  cloudinary.url publicId resourceType deliveryType (deliveryType = "authenticated")

def resolveUrl (cloudinary : Cloudinary) (object : StoredObject) : String :=
  cloudinary.signedUrl object.cloudinaryPublicId object.resourceType object.deliveryType

def getSignedUrl (cloudinary : Cloudinary) (file : UploadedFile) : String :=
  resolveUrl cloudinary file.object

structure MulterFile where
  size : Nat
  buffer : List UInt8
deriving DecidableEq, Repr

/-- What the file store answers to an upload. -/
structure UploadApiResponse where
  publicId : String
  resourceType : String
  format : Option String
  bytes : Option Nat
deriving DecidableEq, Repr

def uploadMaxBytes : Nat := 10 * 1024 * 1024

def uploadAllowedMimeTypes : List String := ["image/png", "image/jpeg", "application/pdf"]

/-- The first bytes of the three formats. -/
def signatures : List (String × List UInt8) :=
  [("image/png", [0x89, 0x50, 0x4e, 0x47, 0x0d, 0x0a, 0x1a, 0x0a]),
   ("image/jpeg", [0xff, 0xd8, 0xff]),
   ("application/pdf", [0x25, 0x50, 0x44, 0x46])]

def detectFileSignature (buffer : List UInt8) : Option String :=
  (signatures.find? fun signature => signature.2.isPrefixOf buffer).map (·.1)

/-- The limits of the tenant's plan, as they answer. -/
def assertLimit (within : Bool) : Transaction Unit :=
  if within then return () else throw (.forbidden "limit_exceeded")

/-- The transaction of an upload. -/
def recordUpload (userId tenantId : Nat) (file : MulterFile) (detectedMime deliveryType : String)
    (result : UploadApiResponse) (within : Bool) : Transaction UploadedFile := do
  assertLimit within
  Db.uploadedFiles.create fun id =>
    { id, object := ⟨result.publicId, result.resourceType, deliveryType⟩
      uploadedByUserId := userId
      format := result.format.getD ((detectedMime.splitOn "/").getD 1 "")
      bytes := result.bytes.getD file.size, tenantId }

/-- The type that the first bytes show, if it may be uploaded. -/
def acceptedMime (file : MulterFile) : Service String :=
  if uploadMaxBytes < file.size then
    throw (.other s!"File exceeds the maximum allowed size of {uploadMaxBytes} bytes")
  else
    match (detectFileSignature file.buffer).filter uploadAllowedMimeTypes.contains with
    | none =>
        throw (.unprocessableEntity
          "This file doesn't match its extension — please re-export and try again.")
    | some detectedMime => return detectedMime

def uploadFile (userId tenantId : Nat) (file : MulterFile) (result : UploadApiResponse)
    (within : Bool) : Service UploadedFile := do
  let detectedMime ← acceptedMime file
  let uploader ← Proc.read (·.users.get userId)
  let deliveryType := if uploader.any (·.role = .admin) then "upload" else "authenticated"
  Proc.transact .upload (recordUpload userId tenantId file detectedMime deliveryType result within)

/-- A file by its id alone, whoever it belongs to. -/
def findById (id : Nat) : Service (Option UploadedFile) := Proc.read (·.uploadedFiles.get id)

def findByIdInTenant (id tenantId : Nat) : Service (Option UploadedFile) :=
  Proc.read fun w => (w.uploadedFiles.get id).filter (·.tenantId = tenantId)

end PrintForge.Catalogue
