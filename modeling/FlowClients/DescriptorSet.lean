import FlowClients.Descriptor.Record
import FlowClients.Failure
import FlowClients.Wire.Reader
import FlowClients.Wire.Writer

/-!
Sets of schema files in binary form.
-/

namespace FlowClients.DescriptorSet

def read (bytes : Wire.Bytes) : Except Failure (List FileDescriptor) :=
  match Wire.readRecord .fileSet bytes with
  | .ok record => .ok (filesOfRecord 1 record)
  | .error cause => .error (.undecodable cause)

def write (files : List FileDescriptor) : Wire.Bytes := Wire.writeRecord (filesToRecord 1 files)

end FlowClients.DescriptorSet
