import SchemaRules.Url.Domain.Image.Letters

/-!
# Images of characters from U+10000 on that are no ideographs

What a domain name is read with in the place of each, as of Unicode 18.
-/

namespace SchemaRules.Url.Domain

/-- The images of characters from U+10000 on that are no ideographs. -/
def supplementImages : List Image :=
  [⟨0x10783, [0xE6]⟩, ⟨0x10784, [0x299]⟩, ⟨0x10785, [0x253]⟩, ⟨0x10787, [0x2A3]⟩,
   ⟨0x10788, [0xAB66]⟩, ⟨0x10789, [0x2A5]⟩, ⟨0x1078A, [0x2A4]⟩, ⟨0x1078D, [0x1D91]⟩,
   ⟨0x1078E, [0x258]⟩, ⟨0x1078F, [0x25E]⟩, ⟨0x10790, [0x2A9]⟩, ⟨0x10791, [0x264]⟩,
   ⟨0x10792, [0x262]⟩, ⟨0x10793, [0x260]⟩, ⟨0x10794, [0x29B]⟩, ⟨0x10795, [0x127]⟩,
   ⟨0x10796, [0x29C]⟩, ⟨0x10797, [0x267]⟩, ⟨0x10798, [0x284]⟩, ⟨0x1079B, [0x26C]⟩,
   ⟨0x1079C, [0x1DF04]⟩, ⟨0x1079D, [0xA78E]⟩, ⟨0x1079E, [0x26E]⟩, ⟨0x1079F, [0x1DF05]⟩,
   ⟨0x107A0, [0x28E]⟩, ⟨0x107A1, [0x1DF06]⟩, ⟨0x107A2, [0xF8]⟩, ⟨0x107A5, [0x71]⟩,
   ⟨0x107A6, [0x27A]⟩, ⟨0x107A7, [0x1DF08]⟩, ⟨0x107AA, [0x280]⟩, ⟨0x107AB, [0x2A8]⟩,
   ⟨0x107AC, [0x2A6]⟩, ⟨0x107AD, [0xAB67]⟩, ⟨0x107AE, [0x2A7]⟩, ⟨0x107AF, [0x288]⟩,
   ⟨0x107B0, [0x2C71]⟩, ⟨0x107B2, [0x28F]⟩, ⟨0x107B5, [0x298]⟩, ⟨0x107B9, [0x1DF0A]⟩,
   ⟨0x107BA, [0x1DF1E]⟩, ⟨0x107BB, [0x287]⟩, ⟨0x1B123, [0x3053, 0x3068]⟩,
   ⟨0x1D15E, [0x1D157, 0x1D165]⟩, ⟨0x1D15F, [0x1D158, 0x1D165]⟩,
   ⟨0x1D160, [0x1D158, 0x1D165, 0x1D16E]⟩, ⟨0x1D161, [0x1D158, 0x1D165, 0x1D16F]⟩,
   ⟨0x1D162, [0x1D158, 0x1D165, 0x1D170]⟩, ⟨0x1D163, [0x1D158, 0x1D165, 0x1D171]⟩,
   ⟨0x1D164, [0x1D158, 0x1D165, 0x1D172]⟩, ⟨0x1D1BB, [0x1D1B9, 0x1D165]⟩,
   ⟨0x1D1BC, [0x1D1BA, 0x1D165]⟩, ⟨0x1D1BD, [0x1D1B9, 0x1D165, 0x1D16E]⟩,
   ⟨0x1D1BE, [0x1D1BA, 0x1D165, 0x1D16E]⟩, ⟨0x1D1BF, [0x1D1B9, 0x1D165, 0x1D16F]⟩,
   ⟨0x1D1C0, [0x1D1BA, 0x1D165, 0x1D16F]⟩, ⟨0x1D49F, [0x64]⟩, ⟨0x1D4A2, [0x67]⟩, ⟨0x1D546, [0x6F]⟩,
   ⟨0x1D6A4, [0x131]⟩, ⟨0x1D6A5, [0x237]⟩, ⟨0x1D6A6, [0x73, 0x73]⟩, ⟨0x1D6B9, [0x3B8]⟩,
   ⟨0x1D6C1, [0x2207]⟩, ⟨0x1D6D3, [0x3C3]⟩, ⟨0x1D6DB, [0x2202]⟩, ⟨0x1D6DC, [0x3B5]⟩,
   ⟨0x1D6DD, [0x3B8]⟩, ⟨0x1D6DE, [0x3BA]⟩, ⟨0x1D6DF, [0x3C6]⟩, ⟨0x1D6E0, [0x3C1]⟩,
   ⟨0x1D6E1, [0x3C0]⟩, ⟨0x1D6F3, [0x3B8]⟩, ⟨0x1D6FB, [0x2207]⟩, ⟨0x1D70D, [0x3C3]⟩,
   ⟨0x1D715, [0x2202]⟩, ⟨0x1D716, [0x3B5]⟩, ⟨0x1D717, [0x3B8]⟩, ⟨0x1D718, [0x3BA]⟩,
   ⟨0x1D719, [0x3C6]⟩, ⟨0x1D71A, [0x3C1]⟩, ⟨0x1D71B, [0x3C0]⟩, ⟨0x1D72D, [0x3B8]⟩,
   ⟨0x1D735, [0x2207]⟩, ⟨0x1D747, [0x3C3]⟩, ⟨0x1D74F, [0x2202]⟩, ⟨0x1D750, [0x3B5]⟩,
   ⟨0x1D751, [0x3B8]⟩, ⟨0x1D752, [0x3BA]⟩, ⟨0x1D753, [0x3C6]⟩, ⟨0x1D754, [0x3C1]⟩,
   ⟨0x1D755, [0x3C0]⟩, ⟨0x1D767, [0x3B8]⟩, ⟨0x1D76F, [0x2207]⟩, ⟨0x1D781, [0x3C3]⟩,
   ⟨0x1D789, [0x2202]⟩, ⟨0x1D78A, [0x3B5]⟩, ⟨0x1D78B, [0x3B8]⟩, ⟨0x1D78C, [0x3BA]⟩,
   ⟨0x1D78D, [0x3C6]⟩, ⟨0x1D78E, [0x3C1]⟩, ⟨0x1D78F, [0x3C0]⟩, ⟨0x1D7A1, [0x3B8]⟩,
   ⟨0x1D7A9, [0x2207]⟩, ⟨0x1D7BB, [0x3C3]⟩, ⟨0x1D7C3, [0x2202]⟩, ⟨0x1D7C4, [0x3B5]⟩,
   ⟨0x1D7C5, [0x3B8]⟩, ⟨0x1D7C6, [0x3BA]⟩, ⟨0x1D7C7, [0x3C6]⟩, ⟨0x1D7C8, [0x3C1]⟩,
   ⟨0x1D7C9, [0x3C0]⟩, ⟨0x1D7CA, [0x3DD]⟩, ⟨0x1D7CB, [0x3DD]⟩, ⟨0x1E047, [0x44B]⟩,
   ⟨0x1E04A, [0xA689]⟩, ⟨0x1E04B, [0x4D9]⟩, ⟨0x1E04C, [0x456]⟩, ⟨0x1E04D, [0x458]⟩,
   ⟨0x1E04E, [0x4E9]⟩, ⟨0x1E04F, [0x4AF]⟩, ⟨0x1E050, [0x4CF]⟩, ⟨0x1E05E, [0x441]⟩,
   ⟨0x1E067, [0x491]⟩, ⟨0x1E068, [0x456]⟩, ⟨0x1E069, [0x455]⟩, ⟨0x1E06A, [0x45F]⟩,
   ⟨0x1E06B, [0x4AB]⟩, ⟨0x1E06C, [0xA651]⟩, ⟨0x1E06D, [0x4B1]⟩, ⟨0x1EE02, [0x62C]⟩,
   ⟨0x1EE03, [0x62F]⟩, ⟨0x1EE05, [0x648]⟩, ⟨0x1EE06, [0x632]⟩, ⟨0x1EE07, [0x62D]⟩,
   ⟨0x1EE08, [0x637]⟩, ⟨0x1EE09, [0x64A]⟩, ⟨0x1EE0E, [0x633]⟩, ⟨0x1EE0F, [0x639]⟩,
   ⟨0x1EE10, [0x641]⟩, ⟨0x1EE11, [0x635]⟩, ⟨0x1EE12, [0x642]⟩, ⟨0x1EE13, [0x631]⟩,
   ⟨0x1EE14, [0x634]⟩, ⟨0x1EE17, [0x62E]⟩, ⟨0x1EE18, [0x630]⟩, ⟨0x1EE19, [0x636]⟩,
   ⟨0x1EE1A, [0x638]⟩, ⟨0x1EE1B, [0x63A]⟩, ⟨0x1EE1C, [0x66E]⟩, ⟨0x1EE1D, [0x6BA]⟩,
   ⟨0x1EE1E, [0x6A1]⟩, ⟨0x1EE1F, [0x66F]⟩, ⟨0x1EE21, [0x628]⟩, ⟨0x1EE22, [0x62C]⟩,
   ⟨0x1EE24, [0x647]⟩, ⟨0x1EE27, [0x62D]⟩, ⟨0x1EE29, [0x64A]⟩, ⟨0x1EE2E, [0x633]⟩,
   ⟨0x1EE2F, [0x639]⟩, ⟨0x1EE30, [0x641]⟩, ⟨0x1EE31, [0x635]⟩, ⟨0x1EE32, [0x642]⟩,
   ⟨0x1EE34, [0x634]⟩, ⟨0x1EE37, [0x62E]⟩, ⟨0x1EE39, [0x636]⟩, ⟨0x1EE3B, [0x63A]⟩,
   ⟨0x1EE42, [0x62C]⟩, ⟨0x1EE47, [0x62D]⟩, ⟨0x1EE49, [0x64A]⟩, ⟨0x1EE4E, [0x633]⟩,
   ⟨0x1EE4F, [0x639]⟩, ⟨0x1EE51, [0x635]⟩, ⟨0x1EE52, [0x642]⟩, ⟨0x1EE54, [0x634]⟩,
   ⟨0x1EE57, [0x62E]⟩, ⟨0x1EE59, [0x636]⟩, ⟨0x1EE5B, [0x63A]⟩, ⟨0x1EE5D, [0x6BA]⟩,
   ⟨0x1EE5F, [0x66F]⟩, ⟨0x1EE61, [0x628]⟩, ⟨0x1EE62, [0x62C]⟩, ⟨0x1EE64, [0x647]⟩,
   ⟨0x1EE67, [0x62D]⟩, ⟨0x1EE68, [0x637]⟩, ⟨0x1EE69, [0x64A]⟩, ⟨0x1EE6D, [0x646]⟩,
   ⟨0x1EE6E, [0x633]⟩, ⟨0x1EE6F, [0x639]⟩, ⟨0x1EE70, [0x641]⟩, ⟨0x1EE71, [0x635]⟩,
   ⟨0x1EE72, [0x642]⟩, ⟨0x1EE74, [0x634]⟩, ⟨0x1EE77, [0x62E]⟩, ⟨0x1EE79, [0x636]⟩,
   ⟨0x1EE7A, [0x638]⟩, ⟨0x1EE7B, [0x63A]⟩, ⟨0x1EE7C, [0x66E]⟩, ⟨0x1EE7E, [0x6A1]⟩,
   ⟨0x1EE82, [0x62C]⟩, ⟨0x1EE83, [0x62F]⟩, ⟨0x1EE86, [0x632]⟩, ⟨0x1EE87, [0x62D]⟩,
   ⟨0x1EE88, [0x637]⟩, ⟨0x1EE89, [0x64A]⟩, ⟨0x1EE8E, [0x633]⟩, ⟨0x1EE8F, [0x639]⟩,
   ⟨0x1EE90, [0x641]⟩, ⟨0x1EE91, [0x635]⟩, ⟨0x1EE92, [0x642]⟩, ⟨0x1EE93, [0x631]⟩,
   ⟨0x1EE94, [0x634]⟩, ⟨0x1EE97, [0x62E]⟩, ⟨0x1EE98, [0x630]⟩, ⟨0x1EE99, [0x636]⟩,
   ⟨0x1EE9A, [0x638]⟩, ⟨0x1EE9B, [0x63A]⟩, ⟨0x1EEA1, [0x628]⟩, ⟨0x1EEA2, [0x62C]⟩,
   ⟨0x1EEA3, [0x62F]⟩, ⟨0x1EEA5, [0x648]⟩, ⟨0x1EEA6, [0x632]⟩, ⟨0x1EEA7, [0x62D]⟩,
   ⟨0x1EEA8, [0x637]⟩, ⟨0x1EEA9, [0x64A]⟩, ⟨0x1EEAE, [0x633]⟩, ⟨0x1EEAF, [0x639]⟩,
   ⟨0x1EEB0, [0x641]⟩, ⟨0x1EEB1, [0x635]⟩, ⟨0x1EEB2, [0x642]⟩, ⟨0x1EEB3, [0x631]⟩,
   ⟨0x1EEB4, [0x634]⟩, ⟨0x1EEB7, [0x62E]⟩, ⟨0x1EEB8, [0x630]⟩, ⟨0x1EEB9, [0x636]⟩,
   ⟨0x1EEBA, [0x638]⟩, ⟨0x1EEBB, [0x63A]⟩, ⟨0x1F101, [0x30, 0x2C]⟩, ⟨0x1F102, [0x31, 0x2C]⟩,
   ⟨0x1F103, [0x32, 0x2C]⟩, ⟨0x1F104, [0x33, 0x2C]⟩, ⟨0x1F105, [0x34, 0x2C]⟩,
   ⟨0x1F106, [0x35, 0x2C]⟩, ⟨0x1F107, [0x36, 0x2C]⟩, ⟨0x1F108, [0x37, 0x2C]⟩,
   ⟨0x1F109, [0x38, 0x2C]⟩, ⟨0x1F10A, [0x39, 0x2C]⟩, ⟨0x1F110, [0x28, 0x61, 0x29]⟩,
   ⟨0x1F111, [0x28, 0x62, 0x29]⟩, ⟨0x1F112, [0x28, 0x63, 0x29]⟩, ⟨0x1F113, [0x28, 0x64, 0x29]⟩,
   ⟨0x1F114, [0x28, 0x65, 0x29]⟩, ⟨0x1F115, [0x28, 0x66, 0x29]⟩, ⟨0x1F116, [0x28, 0x67, 0x29]⟩,
   ⟨0x1F117, [0x28, 0x68, 0x29]⟩, ⟨0x1F118, [0x28, 0x69, 0x29]⟩, ⟨0x1F119, [0x28, 0x6A, 0x29]⟩,
   ⟨0x1F11A, [0x28, 0x6B, 0x29]⟩, ⟨0x1F11B, [0x28, 0x6C, 0x29]⟩, ⟨0x1F11C, [0x28, 0x6D, 0x29]⟩,
   ⟨0x1F11D, [0x28, 0x6E, 0x29]⟩, ⟨0x1F11E, [0x28, 0x6F, 0x29]⟩, ⟨0x1F11F, [0x28, 0x70, 0x29]⟩,
   ⟨0x1F120, [0x28, 0x71, 0x29]⟩, ⟨0x1F121, [0x28, 0x72, 0x29]⟩, ⟨0x1F122, [0x28, 0x73, 0x29]⟩,
   ⟨0x1F123, [0x28, 0x74, 0x29]⟩, ⟨0x1F124, [0x28, 0x75, 0x29]⟩, ⟨0x1F125, [0x28, 0x76, 0x29]⟩,
   ⟨0x1F126, [0x28, 0x77, 0x29]⟩, ⟨0x1F127, [0x28, 0x78, 0x29]⟩, ⟨0x1F128, [0x28, 0x79, 0x29]⟩,
   ⟨0x1F129, [0x28, 0x7A, 0x29]⟩, ⟨0x1F12A, [0x3014, 0x73, 0x3015]⟩, ⟨0x1F12B, [0x63]⟩,
   ⟨0x1F12C, [0x72]⟩, ⟨0x1F12D, [0x63, 0x64]⟩, ⟨0x1F12E, [0x77, 0x7A]⟩, ⟨0x1F14A, [0x68, 0x76]⟩,
   ⟨0x1F14B, [0x6D, 0x76]⟩, ⟨0x1F14C, [0x73, 0x64]⟩, ⟨0x1F14D, [0x73, 0x73]⟩,
   ⟨0x1F14E, [0x70, 0x70, 0x76]⟩, ⟨0x1F14F, [0x77, 0x63]⟩, ⟨0x1F16A, [0x6D, 0x63]⟩,
   ⟨0x1F16B, [0x6D, 0x64]⟩, ⟨0x1F16C, [0x6D, 0x72]⟩, ⟨0x1F190, [0x64, 0x6A]⟩,
   ⟨0x1F200, [0x307B, 0x304B]⟩, ⟨0x1F201, [0x30B3, 0x30B3]⟩, ⟨0x1F202, [0x30B5]⟩,
   ⟨0x1F210, [0x624B]⟩, ⟨0x1F211, [0x5B57]⟩, ⟨0x1F212, [0x53CC]⟩, ⟨0x1F213, [0x30C7]⟩,
   ⟨0x1F214, [0x4E8C]⟩, ⟨0x1F215, [0x591A]⟩, ⟨0x1F216, [0x89E3]⟩, ⟨0x1F217, [0x5929]⟩,
   ⟨0x1F218, [0x4EA4]⟩, ⟨0x1F219, [0x6620]⟩, ⟨0x1F21A, [0x7121]⟩, ⟨0x1F21B, [0x6599]⟩,
   ⟨0x1F21C, [0x524D]⟩, ⟨0x1F21D, [0x5F8C]⟩, ⟨0x1F21E, [0x518D]⟩, ⟨0x1F21F, [0x65B0]⟩,
   ⟨0x1F220, [0x521D]⟩, ⟨0x1F221, [0x7D42]⟩, ⟨0x1F222, [0x751F]⟩, ⟨0x1F223, [0x8CA9]⟩,
   ⟨0x1F224, [0x58F0]⟩, ⟨0x1F225, [0x5439]⟩, ⟨0x1F226, [0x6F14]⟩, ⟨0x1F227, [0x6295]⟩,
   ⟨0x1F228, [0x6355]⟩, ⟨0x1F229, [0x4E00]⟩, ⟨0x1F22A, [0x4E09]⟩, ⟨0x1F22B, [0x904A]⟩,
   ⟨0x1F22C, [0x5DE6]⟩, ⟨0x1F22D, [0x4E2D]⟩, ⟨0x1F22E, [0x53F3]⟩, ⟨0x1F22F, [0x6307]⟩,
   ⟨0x1F230, [0x8D70]⟩, ⟨0x1F231, [0x6253]⟩, ⟨0x1F232, [0x7981]⟩, ⟨0x1F233, [0x7A7A]⟩,
   ⟨0x1F234, [0x5408]⟩, ⟨0x1F235, [0x6E80]⟩, ⟨0x1F236, [0x6709]⟩, ⟨0x1F237, [0x6708]⟩,
   ⟨0x1F238, [0x7533]⟩, ⟨0x1F239, [0x5272]⟩, ⟨0x1F23A, [0x55B6]⟩, ⟨0x1F23B, [0x914D]⟩,
   ⟨0x1F240, [0x3014, 0x672C, 0x3015]⟩, ⟨0x1F241, [0x3014, 0x4E09, 0x3015]⟩,
   ⟨0x1F242, [0x3014, 0x4E8C, 0x3015]⟩, ⟨0x1F243, [0x3014, 0x5B89, 0x3015]⟩,
   ⟨0x1F244, [0x3014, 0x70B9, 0x3015]⟩, ⟨0x1F245, [0x3014, 0x6253, 0x3015]⟩,
   ⟨0x1F246, [0x3014, 0x76D7, 0x3015]⟩, ⟨0x1F247, [0x3014, 0x52DD, 0x3015]⟩,
   ⟨0x1F248, [0x3014, 0x6557, 0x3015]⟩, ⟨0x1F250, [0x5F97]⟩, ⟨0x1F251, [0x53EF]⟩]

end SchemaRules.Url.Domain
