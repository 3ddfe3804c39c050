import SchemaRules.Url.Domain.Image.Letters

/-!
# Images of presentation forms

What a domain name is read with in the place of each, as of Unicode 18.
-/

namespace SchemaRules.Url.Domain

/-- The images of presentation forms to U+FDFF. -/
def formsImages : List Image :=
  [⟨0xFB00, [0x66, 0x66]⟩, ⟨0xFB01, [0x66, 0x69]⟩, ⟨0xFB02, [0x66, 0x6C]⟩,
   ⟨0xFB03, [0x66, 0x66, 0x69]⟩, ⟨0xFB04, [0x66, 0x66, 0x6C]⟩, ⟨0xFB05, [0x73, 0x74]⟩,
   ⟨0xFB06, [0x73, 0x74]⟩, ⟨0xFB13, [0x574, 0x576]⟩, ⟨0xFB14, [0x574, 0x565]⟩,
   ⟨0xFB15, [0x574, 0x56B]⟩, ⟨0xFB16, [0x57E, 0x576]⟩, ⟨0xFB17, [0x574, 0x56D]⟩,
   ⟨0xFB1D, [0x5D9, 0x5B4]⟩, ⟨0xFB1F, [0x5F2, 0x5B7]⟩, ⟨0xFB20, [0x5E2]⟩, ⟨0xFB21, [0x5D0]⟩,
   ⟨0xFB27, [0x5E8]⟩, ⟨0xFB28, [0x5EA]⟩, ⟨0xFB29, [0x2B]⟩, ⟨0xFB2A, [0x5E9, 0x5C1]⟩,
   ⟨0xFB2B, [0x5E9, 0x5C2]⟩, ⟨0xFB2C, [0x5E9, 0x5BC, 0x5C1]⟩, ⟨0xFB2D, [0x5E9, 0x5BC, 0x5C2]⟩,
   ⟨0xFB2E, [0x5D0, 0x5B7]⟩, ⟨0xFB2F, [0x5D0, 0x5B8]⟩, ⟨0xFB30, [0x5D0, 0x5BC]⟩,
   ⟨0xFB31, [0x5D1, 0x5BC]⟩, ⟨0xFB32, [0x5D2, 0x5BC]⟩, ⟨0xFB33, [0x5D3, 0x5BC]⟩,
   ⟨0xFB34, [0x5D4, 0x5BC]⟩, ⟨0xFB35, [0x5D5, 0x5BC]⟩, ⟨0xFB36, [0x5D6, 0x5BC]⟩,
   ⟨0xFB38, [0x5D8, 0x5BC]⟩, ⟨0xFB39, [0x5D9, 0x5BC]⟩, ⟨0xFB3A, [0x5DA, 0x5BC]⟩,
   ⟨0xFB3B, [0x5DB, 0x5BC]⟩, ⟨0xFB3C, [0x5DC, 0x5BC]⟩, ⟨0xFB3E, [0x5DE, 0x5BC]⟩,
   ⟨0xFB40, [0x5E0, 0x5BC]⟩, ⟨0xFB41, [0x5E1, 0x5BC]⟩, ⟨0xFB43, [0x5E3, 0x5BC]⟩,
   ⟨0xFB44, [0x5E4, 0x5BC]⟩, ⟨0xFB46, [0x5E6, 0x5BC]⟩, ⟨0xFB47, [0x5E7, 0x5BC]⟩,
   ⟨0xFB48, [0x5E8, 0x5BC]⟩, ⟨0xFB49, [0x5E9, 0x5BC]⟩, ⟨0xFB4A, [0x5EA, 0x5BC]⟩,
   ⟨0xFB4B, [0x5D5, 0x5B9]⟩, ⟨0xFB4C, [0x5D1, 0x5BF]⟩, ⟨0xFB4D, [0x5DB, 0x5BF]⟩,
   ⟨0xFB4E, [0x5E4, 0x5BF]⟩, ⟨0xFB4F, [0x5D0, 0x5DC]⟩, ⟨0xFB50, [0x671]⟩, ⟨0xFB51, [0x671]⟩,
   ⟨0xFB52, [0x67B]⟩, ⟨0xFB53, [0x67B]⟩, ⟨0xFB54, [0x67B]⟩, ⟨0xFB55, [0x67B]⟩, ⟨0xFB56, [0x67E]⟩,
   ⟨0xFB57, [0x67E]⟩, ⟨0xFB58, [0x67E]⟩, ⟨0xFB59, [0x67E]⟩, ⟨0xFB5A, [0x680]⟩, ⟨0xFB5B, [0x680]⟩,
   ⟨0xFB5C, [0x680]⟩, ⟨0xFB5D, [0x680]⟩, ⟨0xFB5E, [0x67A]⟩, ⟨0xFB5F, [0x67A]⟩, ⟨0xFB60, [0x67A]⟩,
   ⟨0xFB61, [0x67A]⟩, ⟨0xFB62, [0x67F]⟩, ⟨0xFB63, [0x67F]⟩, ⟨0xFB64, [0x67F]⟩, ⟨0xFB65, [0x67F]⟩,
   ⟨0xFB66, [0x679]⟩, ⟨0xFB67, [0x679]⟩, ⟨0xFB68, [0x679]⟩, ⟨0xFB69, [0x679]⟩, ⟨0xFB6A, [0x6A4]⟩,
   ⟨0xFB6B, [0x6A4]⟩, ⟨0xFB6C, [0x6A4]⟩, ⟨0xFB6D, [0x6A4]⟩, ⟨0xFB6E, [0x6A6]⟩, ⟨0xFB6F, [0x6A6]⟩,
   ⟨0xFB70, [0x6A6]⟩, ⟨0xFB71, [0x6A6]⟩, ⟨0xFB72, [0x684]⟩, ⟨0xFB73, [0x684]⟩, ⟨0xFB74, [0x684]⟩,
   ⟨0xFB75, [0x684]⟩, ⟨0xFB76, [0x683]⟩, ⟨0xFB77, [0x683]⟩, ⟨0xFB78, [0x683]⟩, ⟨0xFB79, [0x683]⟩,
   ⟨0xFB7A, [0x686]⟩, ⟨0xFB7B, [0x686]⟩, ⟨0xFB7C, [0x686]⟩, ⟨0xFB7F, [0x687]⟩, ⟨0xFB80, [0x687]⟩,
   ⟨0xFB81, [0x687]⟩, ⟨0xFB82, [0x68D]⟩, ⟨0xFB83, [0x68D]⟩, ⟨0xFB84, [0x68C]⟩, ⟨0xFB85, [0x68C]⟩,
   ⟨0xFB86, [0x68E]⟩, ⟨0xFB87, [0x68E]⟩, ⟨0xFB88, [0x688]⟩, ⟨0xFB89, [0x688]⟩, ⟨0xFB8A, [0x698]⟩,
   ⟨0xFB8B, [0x698]⟩, ⟨0xFB8C, [0x691]⟩, ⟨0xFB8D, [0x691]⟩, ⟨0xFB8E, [0x6A9]⟩, ⟨0xFB8F, [0x6A9]⟩,
   ⟨0xFB90, [0x6A9]⟩, ⟨0xFB91, [0x6A9]⟩, ⟨0xFB92, [0x6AF]⟩, ⟨0xFB93, [0x6AF]⟩, ⟨0xFB94, [0x6AF]⟩,
   ⟨0xFB95, [0x6AF]⟩, ⟨0xFB96, [0x6B3]⟩, ⟨0xFB97, [0x6B3]⟩, ⟨0xFB98, [0x6B3]⟩, ⟨0xFB99, [0x6B3]⟩,
   ⟨0xFB9A, [0x6B1]⟩, ⟨0xFB9B, [0x6B1]⟩, ⟨0xFB9C, [0x6B1]⟩, ⟨0xFB9D, [0x6B1]⟩, ⟨0xFB9E, [0x6BA]⟩,
   ⟨0xFBA1, [0x6BB]⟩, ⟨0xFBA2, [0x6BB]⟩, ⟨0xFBA3, [0x6BB]⟩, ⟨0xFBA4, [0x6C0]⟩, ⟨0xFBA7, [0x6C1]⟩,
   ⟨0xFBA8, [0x6C1]⟩, ⟨0xFBA9, [0x6C1]⟩, ⟨0xFBAA, [0x6BE]⟩, ⟨0xFBAB, [0x6BE]⟩, ⟨0xFBAC, [0x6BE]⟩,
   ⟨0xFBAD, [0x6BE]⟩, ⟨0xFBAE, [0x6D2]⟩, ⟨0xFBB1, [0x6D3]⟩, ⟨0xFBD3, [0x6AD]⟩, ⟨0xFBD4, [0x6AD]⟩,
   ⟨0xFBD5, [0x6AD]⟩, ⟨0xFBD6, [0x6AD]⟩, ⟨0xFBD7, [0x6C7]⟩, ⟨0xFBD8, [0x6C7]⟩, ⟨0xFBD9, [0x6C6]⟩,
   ⟨0xFBDA, [0x6C6]⟩, ⟨0xFBDB, [0x6C8]⟩, ⟨0xFBDC, [0x6C8]⟩, ⟨0xFBDD, [0x6C7, 0x674]⟩,
   ⟨0xFBDE, [0x6CB]⟩, ⟨0xFBDF, [0x6CB]⟩, ⟨0xFBE0, [0x6C5]⟩, ⟨0xFBE1, [0x6C5]⟩, ⟨0xFBE2, [0x6C9]⟩,
   ⟨0xFBE3, [0x6C9]⟩, ⟨0xFBE4, [0x6D0]⟩, ⟨0xFBE5, [0x6D0]⟩, ⟨0xFBE6, [0x6D0]⟩, ⟨0xFBE7, [0x6D0]⟩,
   ⟨0xFBE8, [0x649]⟩, ⟨0xFBE9, [0x649]⟩, ⟨0xFBEA, [0x626, 0x627]⟩, ⟨0xFBEB, [0x626, 0x627]⟩,
   ⟨0xFBEC, [0x626, 0x6D5]⟩, ⟨0xFBED, [0x626, 0x6D5]⟩, ⟨0xFBEE, [0x626, 0x648]⟩,
   ⟨0xFBEF, [0x626, 0x648]⟩, ⟨0xFBF0, [0x626, 0x6C7]⟩, ⟨0xFBF1, [0x626, 0x6C7]⟩,
   ⟨0xFBF2, [0x626, 0x6C6]⟩, ⟨0xFBF3, [0x626, 0x6C6]⟩, ⟨0xFBF4, [0x626, 0x6C8]⟩,
   ⟨0xFBF5, [0x626, 0x6C8]⟩, ⟨0xFBF6, [0x626, 0x6D0]⟩, ⟨0xFBF7, [0x626, 0x6D0]⟩,
   ⟨0xFBF8, [0x626, 0x6D0]⟩, ⟨0xFBF9, [0x626, 0x649]⟩, ⟨0xFBFA, [0x626, 0x649]⟩,
   ⟨0xFBFB, [0x626, 0x649]⟩, ⟨0xFBFC, [0x6CC]⟩, ⟨0xFBFD, [0x6CC]⟩, ⟨0xFBFE, [0x6CC]⟩,
   ⟨0xFBFF, [0x6CC]⟩, ⟨0xFC00, [0x626, 0x62C]⟩, ⟨0xFC01, [0x626, 0x62D]⟩, ⟨0xFC02, [0x626, 0x645]⟩,
   ⟨0xFC03, [0x626, 0x649]⟩, ⟨0xFC04, [0x626, 0x64A]⟩, ⟨0xFC05, [0x628, 0x62C]⟩,
   ⟨0xFC06, [0x628, 0x62D]⟩, ⟨0xFC07, [0x628, 0x62E]⟩, ⟨0xFC08, [0x628, 0x645]⟩,
   ⟨0xFC09, [0x628, 0x649]⟩, ⟨0xFC0A, [0x628, 0x64A]⟩, ⟨0xFC0B, [0x62A, 0x62C]⟩,
   ⟨0xFC0C, [0x62A, 0x62D]⟩, ⟨0xFC0D, [0x62A, 0x62E]⟩, ⟨0xFC0E, [0x62A, 0x645]⟩,
   ⟨0xFC0F, [0x62A, 0x649]⟩, ⟨0xFC10, [0x62A, 0x64A]⟩, ⟨0xFC11, [0x62B, 0x62C]⟩,
   ⟨0xFC12, [0x62B, 0x645]⟩, ⟨0xFC13, [0x62B, 0x649]⟩, ⟨0xFC14, [0x62B, 0x64A]⟩,
   ⟨0xFC15, [0x62C, 0x62D]⟩, ⟨0xFC16, [0x62C, 0x645]⟩, ⟨0xFC17, [0x62D, 0x62C]⟩,
   ⟨0xFC18, [0x62D, 0x645]⟩, ⟨0xFC19, [0x62E, 0x62C]⟩, ⟨0xFC1A, [0x62E, 0x62D]⟩,
   ⟨0xFC1B, [0x62E, 0x645]⟩, ⟨0xFC1C, [0x633, 0x62C]⟩, ⟨0xFC1D, [0x633, 0x62D]⟩,
   ⟨0xFC1E, [0x633, 0x62E]⟩, ⟨0xFC1F, [0x633, 0x645]⟩, ⟨0xFC20, [0x635, 0x62D]⟩,
   ⟨0xFC21, [0x635, 0x645]⟩, ⟨0xFC22, [0x636, 0x62C]⟩, ⟨0xFC23, [0x636, 0x62D]⟩,
   ⟨0xFC24, [0x636, 0x62E]⟩, ⟨0xFC25, [0x636, 0x645]⟩, ⟨0xFC26, [0x637, 0x62D]⟩,
   ⟨0xFC27, [0x637, 0x645]⟩, ⟨0xFC28, [0x638, 0x645]⟩, ⟨0xFC29, [0x639, 0x62C]⟩,
   ⟨0xFC2A, [0x639, 0x645]⟩, ⟨0xFC2B, [0x63A, 0x62C]⟩, ⟨0xFC2C, [0x63A, 0x645]⟩,
   ⟨0xFC2D, [0x641, 0x62C]⟩, ⟨0xFC2E, [0x641, 0x62D]⟩, ⟨0xFC2F, [0x641, 0x62E]⟩,
   ⟨0xFC30, [0x641, 0x645]⟩, ⟨0xFC31, [0x641, 0x649]⟩, ⟨0xFC32, [0x641, 0x64A]⟩,
   ⟨0xFC33, [0x642, 0x62D]⟩, ⟨0xFC34, [0x642, 0x645]⟩, ⟨0xFC35, [0x642, 0x649]⟩,
   ⟨0xFC36, [0x642, 0x64A]⟩, ⟨0xFC37, [0x643, 0x627]⟩, ⟨0xFC38, [0x643, 0x62C]⟩,
   ⟨0xFC39, [0x643, 0x62D]⟩, ⟨0xFC3A, [0x643, 0x62E]⟩, ⟨0xFC3B, [0x643, 0x644]⟩,
   ⟨0xFC3C, [0x643, 0x645]⟩, ⟨0xFC3D, [0x643, 0x649]⟩, ⟨0xFC3E, [0x643, 0x64A]⟩,
   ⟨0xFC3F, [0x644, 0x62C]⟩, ⟨0xFC40, [0x644, 0x62D]⟩, ⟨0xFC41, [0x644, 0x62E]⟩,
   ⟨0xFC42, [0x644, 0x645]⟩, ⟨0xFC43, [0x644, 0x649]⟩, ⟨0xFC44, [0x644, 0x64A]⟩,
   ⟨0xFC45, [0x645, 0x62C]⟩, ⟨0xFC46, [0x645, 0x62D]⟩, ⟨0xFC47, [0x645, 0x62E]⟩,
   ⟨0xFC48, [0x645, 0x645]⟩, ⟨0xFC49, [0x645, 0x649]⟩, ⟨0xFC4A, [0x645, 0x64A]⟩,
   ⟨0xFC4B, [0x646, 0x62C]⟩, ⟨0xFC4C, [0x646, 0x62D]⟩, ⟨0xFC4D, [0x646, 0x62E]⟩,
   ⟨0xFC4E, [0x646, 0x645]⟩, ⟨0xFC4F, [0x646, 0x649]⟩, ⟨0xFC50, [0x646, 0x64A]⟩,
   ⟨0xFC51, [0x647, 0x62C]⟩, ⟨0xFC52, [0x647, 0x645]⟩, ⟨0xFC53, [0x647, 0x649]⟩,
   ⟨0xFC54, [0x647, 0x64A]⟩, ⟨0xFC55, [0x64A, 0x62C]⟩, ⟨0xFC56, [0x64A, 0x62D]⟩,
   ⟨0xFC57, [0x64A, 0x62E]⟩, ⟨0xFC58, [0x64A, 0x645]⟩, ⟨0xFC59, [0x64A, 0x649]⟩,
   ⟨0xFC5A, [0x64A, 0x64A]⟩, ⟨0xFC5B, [0x630, 0x670]⟩, ⟨0xFC5C, [0x631, 0x670]⟩,
   ⟨0xFC5D, [0x649, 0x670]⟩, ⟨0xFC5E, [0x20, 0x64C, 0x651]⟩, ⟨0xFC5F, [0x20, 0x64D, 0x651]⟩,
   ⟨0xFC60, [0x20, 0x64E, 0x651]⟩, ⟨0xFC61, [0x20, 0x64F, 0x651]⟩, ⟨0xFC62, [0x20, 0x650, 0x651]⟩,
   ⟨0xFC63, [0x20, 0x651, 0x670]⟩, ⟨0xFC64, [0x626, 0x631]⟩, ⟨0xFC65, [0x626, 0x632]⟩,
   ⟨0xFC66, [0x626, 0x645]⟩, ⟨0xFC67, [0x626, 0x646]⟩, ⟨0xFC68, [0x626, 0x649]⟩,
   ⟨0xFC69, [0x626, 0x64A]⟩, ⟨0xFC6A, [0x628, 0x631]⟩, ⟨0xFC6B, [0x628, 0x632]⟩,
   ⟨0xFC6C, [0x628, 0x645]⟩, ⟨0xFC6D, [0x628, 0x646]⟩, ⟨0xFC6E, [0x628, 0x649]⟩,
   ⟨0xFC6F, [0x628, 0x64A]⟩, ⟨0xFC70, [0x62A, 0x631]⟩, ⟨0xFC71, [0x62A, 0x632]⟩,
   ⟨0xFC72, [0x62A, 0x645]⟩, ⟨0xFC73, [0x62A, 0x646]⟩, ⟨0xFC74, [0x62A, 0x649]⟩,
   ⟨0xFC75, [0x62A, 0x64A]⟩, ⟨0xFC76, [0x62B, 0x631]⟩, ⟨0xFC77, [0x62B, 0x632]⟩,
   ⟨0xFC78, [0x62B, 0x645]⟩, ⟨0xFC79, [0x62B, 0x646]⟩, ⟨0xFC7A, [0x62B, 0x649]⟩,
   ⟨0xFC7B, [0x62B, 0x64A]⟩, ⟨0xFC7C, [0x641, 0x649]⟩, ⟨0xFC7D, [0x641, 0x64A]⟩,
   ⟨0xFC7E, [0x642, 0x649]⟩, ⟨0xFC7F, [0x642, 0x64A]⟩, ⟨0xFC80, [0x643, 0x627]⟩,
   ⟨0xFC81, [0x643, 0x644]⟩, ⟨0xFC82, [0x643, 0x645]⟩, ⟨0xFC83, [0x643, 0x649]⟩,
   ⟨0xFC84, [0x643, 0x64A]⟩, ⟨0xFC85, [0x644, 0x645]⟩, ⟨0xFC86, [0x644, 0x649]⟩,
   ⟨0xFC87, [0x644, 0x64A]⟩, ⟨0xFC88, [0x645, 0x627]⟩, ⟨0xFC89, [0x645, 0x645]⟩,
   ⟨0xFC8A, [0x646, 0x631]⟩, ⟨0xFC8B, [0x646, 0x632]⟩, ⟨0xFC8C, [0x646, 0x645]⟩,
   ⟨0xFC8D, [0x646, 0x646]⟩, ⟨0xFC8E, [0x646, 0x649]⟩, ⟨0xFC8F, [0x646, 0x64A]⟩,
   ⟨0xFC90, [0x649, 0x670]⟩, ⟨0xFC91, [0x64A, 0x631]⟩, ⟨0xFC92, [0x64A, 0x632]⟩,
   ⟨0xFC93, [0x64A, 0x645]⟩, ⟨0xFC94, [0x64A, 0x646]⟩, ⟨0xFC95, [0x64A, 0x649]⟩,
   ⟨0xFC96, [0x64A, 0x64A]⟩, ⟨0xFC97, [0x626, 0x62C]⟩, ⟨0xFC98, [0x626, 0x62D]⟩,
   ⟨0xFC99, [0x626, 0x62E]⟩, ⟨0xFC9A, [0x626, 0x645]⟩, ⟨0xFC9B, [0x626, 0x647]⟩,
   ⟨0xFC9C, [0x628, 0x62C]⟩, ⟨0xFC9D, [0x628, 0x62D]⟩, ⟨0xFC9E, [0x628, 0x62E]⟩,
   ⟨0xFC9F, [0x628, 0x645]⟩, ⟨0xFCA0, [0x628, 0x647]⟩, ⟨0xFCA1, [0x62A, 0x62C]⟩,
   ⟨0xFCA2, [0x62A, 0x62D]⟩, ⟨0xFCA3, [0x62A, 0x62E]⟩, ⟨0xFCA4, [0x62A, 0x645]⟩,
   ⟨0xFCA5, [0x62A, 0x647]⟩, ⟨0xFCA6, [0x62B, 0x645]⟩, ⟨0xFCA7, [0x62C, 0x62D]⟩,
   ⟨0xFCA8, [0x62C, 0x645]⟩, ⟨0xFCA9, [0x62D, 0x62C]⟩, ⟨0xFCAA, [0x62D, 0x645]⟩,
   ⟨0xFCAB, [0x62E, 0x62C]⟩, ⟨0xFCAC, [0x62E, 0x645]⟩, ⟨0xFCAD, [0x633, 0x62C]⟩,
   ⟨0xFCAE, [0x633, 0x62D]⟩, ⟨0xFCAF, [0x633, 0x62E]⟩, ⟨0xFCB0, [0x633, 0x645]⟩,
   ⟨0xFCB1, [0x635, 0x62D]⟩, ⟨0xFCB2, [0x635, 0x62E]⟩, ⟨0xFCB3, [0x635, 0x645]⟩,
   ⟨0xFCB4, [0x636, 0x62C]⟩, ⟨0xFCB5, [0x636, 0x62D]⟩, ⟨0xFCB6, [0x636, 0x62E]⟩,
   ⟨0xFCB7, [0x636, 0x645]⟩, ⟨0xFCB8, [0x637, 0x62D]⟩, ⟨0xFCB9, [0x638, 0x645]⟩,
   ⟨0xFCBA, [0x639, 0x62C]⟩, ⟨0xFCBB, [0x639, 0x645]⟩, ⟨0xFCBC, [0x63A, 0x62C]⟩,
   ⟨0xFCBD, [0x63A, 0x645]⟩, ⟨0xFCBE, [0x641, 0x62C]⟩, ⟨0xFCBF, [0x641, 0x62D]⟩,
   ⟨0xFCC0, [0x641, 0x62E]⟩, ⟨0xFCC1, [0x641, 0x645]⟩, ⟨0xFCC2, [0x642, 0x62D]⟩,
   ⟨0xFCC3, [0x642, 0x645]⟩, ⟨0xFCC4, [0x643, 0x62C]⟩, ⟨0xFCC5, [0x643, 0x62D]⟩,
   ⟨0xFCC6, [0x643, 0x62E]⟩, ⟨0xFCC7, [0x643, 0x644]⟩, ⟨0xFCC8, [0x643, 0x645]⟩,
   ⟨0xFCC9, [0x644, 0x62C]⟩, ⟨0xFCCA, [0x644, 0x62D]⟩, ⟨0xFCCB, [0x644, 0x62E]⟩,
   ⟨0xFCCC, [0x644, 0x645]⟩, ⟨0xFCCD, [0x644, 0x647]⟩, ⟨0xFCCE, [0x645, 0x62C]⟩,
   ⟨0xFCCF, [0x645, 0x62D]⟩, ⟨0xFCD0, [0x645, 0x62E]⟩, ⟨0xFCD1, [0x645, 0x645]⟩,
   ⟨0xFCD2, [0x646, 0x62C]⟩, ⟨0xFCD3, [0x646, 0x62D]⟩, ⟨0xFCD4, [0x646, 0x62E]⟩,
   ⟨0xFCD5, [0x646, 0x645]⟩, ⟨0xFCD6, [0x646, 0x647]⟩, ⟨0xFCD7, [0x647, 0x62C]⟩,
   ⟨0xFCD8, [0x647, 0x645]⟩, ⟨0xFCD9, [0x647, 0x670]⟩, ⟨0xFCDA, [0x64A, 0x62C]⟩,
   ⟨0xFCDB, [0x64A, 0x62D]⟩, ⟨0xFCDC, [0x64A, 0x62E]⟩, ⟨0xFCDD, [0x64A, 0x645]⟩,
   ⟨0xFCDE, [0x64A, 0x647]⟩, ⟨0xFCDF, [0x626, 0x645]⟩, ⟨0xFCE0, [0x626, 0x647]⟩,
   ⟨0xFCE1, [0x628, 0x645]⟩, ⟨0xFCE2, [0x628, 0x647]⟩, ⟨0xFCE3, [0x62A, 0x645]⟩,
   ⟨0xFCE4, [0x62A, 0x647]⟩, ⟨0xFCE5, [0x62B, 0x645]⟩, ⟨0xFCE6, [0x62B, 0x647]⟩,
   ⟨0xFCE7, [0x633, 0x645]⟩, ⟨0xFCE8, [0x633, 0x647]⟩, ⟨0xFCE9, [0x634, 0x645]⟩,
   ⟨0xFCEA, [0x634, 0x647]⟩, ⟨0xFCEB, [0x643, 0x644]⟩, ⟨0xFCEC, [0x643, 0x645]⟩,
   ⟨0xFCED, [0x644, 0x645]⟩, ⟨0xFCEE, [0x646, 0x645]⟩, ⟨0xFCEF, [0x646, 0x647]⟩,
   ⟨0xFCF0, [0x64A, 0x645]⟩, ⟨0xFCF1, [0x64A, 0x647]⟩, ⟨0xFCF2, [0x640, 0x64E, 0x651]⟩,
   ⟨0xFCF3, [0x640, 0x64F, 0x651]⟩, ⟨0xFCF4, [0x640, 0x650, 0x651]⟩, ⟨0xFCF5, [0x637, 0x649]⟩,
   ⟨0xFCF6, [0x637, 0x64A]⟩, ⟨0xFCF7, [0x639, 0x649]⟩, ⟨0xFCF8, [0x639, 0x64A]⟩,
   ⟨0xFCF9, [0x63A, 0x649]⟩, ⟨0xFCFA, [0x63A, 0x64A]⟩, ⟨0xFCFB, [0x633, 0x649]⟩,
   ⟨0xFCFC, [0x633, 0x64A]⟩, ⟨0xFCFD, [0x634, 0x649]⟩, ⟨0xFCFE, [0x634, 0x64A]⟩,
   ⟨0xFCFF, [0x62D, 0x649]⟩, ⟨0xFD00, [0x62D, 0x64A]⟩, ⟨0xFD01, [0x62C, 0x649]⟩,
   ⟨0xFD02, [0x62C, 0x64A]⟩, ⟨0xFD03, [0x62E, 0x649]⟩, ⟨0xFD04, [0x62E, 0x64A]⟩,
   ⟨0xFD05, [0x635, 0x649]⟩, ⟨0xFD06, [0x635, 0x64A]⟩, ⟨0xFD07, [0x636, 0x649]⟩,
   ⟨0xFD08, [0x636, 0x64A]⟩, ⟨0xFD09, [0x634, 0x62C]⟩, ⟨0xFD0A, [0x634, 0x62D]⟩,
   ⟨0xFD0B, [0x634, 0x62E]⟩, ⟨0xFD0C, [0x634, 0x645]⟩, ⟨0xFD0D, [0x634, 0x631]⟩,
   ⟨0xFD0E, [0x633, 0x631]⟩, ⟨0xFD0F, [0x635, 0x631]⟩, ⟨0xFD10, [0x636, 0x631]⟩,
   ⟨0xFD11, [0x637, 0x649]⟩, ⟨0xFD12, [0x637, 0x64A]⟩, ⟨0xFD13, [0x639, 0x649]⟩,
   ⟨0xFD14, [0x639, 0x64A]⟩, ⟨0xFD15, [0x63A, 0x649]⟩, ⟨0xFD16, [0x63A, 0x64A]⟩,
   ⟨0xFD17, [0x633, 0x649]⟩, ⟨0xFD18, [0x633, 0x64A]⟩, ⟨0xFD19, [0x634, 0x649]⟩,
   ⟨0xFD1A, [0x634, 0x64A]⟩, ⟨0xFD1B, [0x62D, 0x649]⟩, ⟨0xFD1C, [0x62D, 0x64A]⟩,
   ⟨0xFD1D, [0x62C, 0x649]⟩, ⟨0xFD1E, [0x62C, 0x64A]⟩, ⟨0xFD1F, [0x62E, 0x649]⟩,
   ⟨0xFD20, [0x62E, 0x64A]⟩, ⟨0xFD21, [0x635, 0x649]⟩, ⟨0xFD22, [0x635, 0x64A]⟩,
   ⟨0xFD23, [0x636, 0x649]⟩, ⟨0xFD24, [0x636, 0x64A]⟩, ⟨0xFD25, [0x634, 0x62C]⟩,
   ⟨0xFD26, [0x634, 0x62D]⟩, ⟨0xFD27, [0x634, 0x62E]⟩, ⟨0xFD28, [0x634, 0x645]⟩,
   ⟨0xFD29, [0x634, 0x631]⟩, ⟨0xFD2A, [0x633, 0x631]⟩, ⟨0xFD2B, [0x635, 0x631]⟩,
   ⟨0xFD2C, [0x636, 0x631]⟩, ⟨0xFD2D, [0x634, 0x62C]⟩, ⟨0xFD2E, [0x634, 0x62D]⟩,
   ⟨0xFD2F, [0x634, 0x62E]⟩, ⟨0xFD30, [0x634, 0x645]⟩, ⟨0xFD31, [0x633, 0x647]⟩,
   ⟨0xFD32, [0x634, 0x647]⟩, ⟨0xFD33, [0x637, 0x645]⟩, ⟨0xFD34, [0x633, 0x62C]⟩,
   ⟨0xFD35, [0x633, 0x62D]⟩, ⟨0xFD36, [0x633, 0x62E]⟩, ⟨0xFD37, [0x634, 0x62C]⟩,
   ⟨0xFD38, [0x634, 0x62D]⟩, ⟨0xFD39, [0x634, 0x62E]⟩, ⟨0xFD3A, [0x637, 0x645]⟩,
   ⟨0xFD3B, [0x638, 0x645]⟩, ⟨0xFD3C, [0x627, 0x64B]⟩, ⟨0xFD3D, [0x627, 0x64B]⟩,
   ⟨0xFD50, [0x62A, 0x62C, 0x645]⟩, ⟨0xFD51, [0x62A, 0x62D, 0x62C]⟩,
   ⟨0xFD52, [0x62A, 0x62D, 0x62C]⟩, ⟨0xFD53, [0x62A, 0x62D, 0x645]⟩,
   ⟨0xFD54, [0x62A, 0x62E, 0x645]⟩, ⟨0xFD55, [0x62A, 0x645, 0x62C]⟩,
   ⟨0xFD56, [0x62A, 0x645, 0x62D]⟩, ⟨0xFD57, [0x62A, 0x645, 0x62E]⟩,
   ⟨0xFD58, [0x62C, 0x645, 0x62D]⟩, ⟨0xFD59, [0x62C, 0x645, 0x62D]⟩,
   ⟨0xFD5A, [0x62D, 0x645, 0x64A]⟩, ⟨0xFD5B, [0x62D, 0x645, 0x649]⟩,
   ⟨0xFD5C, [0x633, 0x62D, 0x62C]⟩, ⟨0xFD5D, [0x633, 0x62C, 0x62D]⟩,
   ⟨0xFD5E, [0x633, 0x62C, 0x649]⟩, ⟨0xFD5F, [0x633, 0x645, 0x62D]⟩,
   ⟨0xFD60, [0x633, 0x645, 0x62D]⟩, ⟨0xFD61, [0x633, 0x645, 0x62C]⟩,
   ⟨0xFD62, [0x633, 0x645, 0x645]⟩, ⟨0xFD63, [0x633, 0x645, 0x645]⟩,
   ⟨0xFD64, [0x635, 0x62D, 0x62D]⟩, ⟨0xFD65, [0x635, 0x62D, 0x62D]⟩,
   ⟨0xFD66, [0x635, 0x645, 0x645]⟩, ⟨0xFD67, [0x634, 0x62D, 0x645]⟩,
   ⟨0xFD68, [0x634, 0x62D, 0x645]⟩, ⟨0xFD69, [0x634, 0x62C, 0x64A]⟩,
   ⟨0xFD6A, [0x634, 0x645, 0x62E]⟩, ⟨0xFD6B, [0x634, 0x645, 0x62E]⟩,
   ⟨0xFD6C, [0x634, 0x645, 0x645]⟩, ⟨0xFD6D, [0x634, 0x645, 0x645]⟩,
   ⟨0xFD6E, [0x636, 0x62D, 0x649]⟩, ⟨0xFD6F, [0x636, 0x62E, 0x645]⟩,
   ⟨0xFD70, [0x636, 0x62E, 0x645]⟩, ⟨0xFD71, [0x637, 0x645, 0x62D]⟩,
   ⟨0xFD72, [0x637, 0x645, 0x62D]⟩, ⟨0xFD73, [0x637, 0x645, 0x645]⟩,
   ⟨0xFD74, [0x637, 0x645, 0x64A]⟩, ⟨0xFD75, [0x639, 0x62C, 0x645]⟩,
   ⟨0xFD76, [0x639, 0x645, 0x645]⟩, ⟨0xFD77, [0x639, 0x645, 0x645]⟩,
   ⟨0xFD78, [0x639, 0x645, 0x649]⟩, ⟨0xFD79, [0x63A, 0x645, 0x645]⟩,
   ⟨0xFD7A, [0x63A, 0x645, 0x64A]⟩, ⟨0xFD7B, [0x63A, 0x645, 0x649]⟩,
   ⟨0xFD7C, [0x641, 0x62E, 0x645]⟩, ⟨0xFD7D, [0x641, 0x62E, 0x645]⟩,
   ⟨0xFD7E, [0x642, 0x645, 0x62D]⟩, ⟨0xFD7F, [0x642, 0x645, 0x645]⟩,
   ⟨0xFD80, [0x644, 0x62D, 0x645]⟩, ⟨0xFD81, [0x644, 0x62D, 0x64A]⟩,
   ⟨0xFD82, [0x644, 0x62D, 0x649]⟩, ⟨0xFD83, [0x644, 0x62C, 0x62C]⟩,
   ⟨0xFD84, [0x644, 0x62C, 0x62C]⟩, ⟨0xFD85, [0x644, 0x62E, 0x645]⟩,
   ⟨0xFD86, [0x644, 0x62E, 0x645]⟩, ⟨0xFD87, [0x644, 0x645, 0x62D]⟩,
   ⟨0xFD88, [0x644, 0x645, 0x62D]⟩, ⟨0xFD89, [0x645, 0x62D, 0x62C]⟩,
   ⟨0xFD8A, [0x645, 0x62D, 0x645]⟩, ⟨0xFD8B, [0x645, 0x62D, 0x64A]⟩,
   ⟨0xFD8C, [0x645, 0x62C, 0x62D]⟩, ⟨0xFD8D, [0x645, 0x62C, 0x645]⟩,
   ⟨0xFD8E, [0x645, 0x62E, 0x62C]⟩, ⟨0xFD8F, [0x645, 0x62E, 0x645]⟩,
   ⟨0xFD92, [0x645, 0x62C, 0x62E]⟩, ⟨0xFD93, [0x647, 0x645, 0x62C]⟩,
   ⟨0xFD94, [0x647, 0x645, 0x645]⟩, ⟨0xFD95, [0x646, 0x62D, 0x645]⟩,
   ⟨0xFD96, [0x646, 0x62D, 0x649]⟩, ⟨0xFD97, [0x646, 0x62C, 0x645]⟩,
   ⟨0xFD98, [0x646, 0x62C, 0x645]⟩, ⟨0xFD99, [0x646, 0x62C, 0x649]⟩,
   ⟨0xFD9A, [0x646, 0x645, 0x64A]⟩, ⟨0xFD9B, [0x646, 0x645, 0x649]⟩,
   ⟨0xFD9C, [0x64A, 0x645, 0x645]⟩, ⟨0xFD9D, [0x64A, 0x645, 0x645]⟩,
   ⟨0xFD9E, [0x628, 0x62E, 0x64A]⟩, ⟨0xFD9F, [0x62A, 0x62C, 0x64A]⟩,
   ⟨0xFDA0, [0x62A, 0x62C, 0x649]⟩, ⟨0xFDA1, [0x62A, 0x62E, 0x64A]⟩,
   ⟨0xFDA2, [0x62A, 0x62E, 0x649]⟩, ⟨0xFDA3, [0x62A, 0x645, 0x64A]⟩,
   ⟨0xFDA4, [0x62A, 0x645, 0x649]⟩, ⟨0xFDA5, [0x62C, 0x645, 0x64A]⟩,
   ⟨0xFDA6, [0x62C, 0x62D, 0x649]⟩, ⟨0xFDA7, [0x62C, 0x645, 0x649]⟩,
   ⟨0xFDA8, [0x633, 0x62E, 0x649]⟩, ⟨0xFDA9, [0x635, 0x62D, 0x64A]⟩,
   ⟨0xFDAA, [0x634, 0x62D, 0x64A]⟩, ⟨0xFDAB, [0x636, 0x62D, 0x64A]⟩,
   ⟨0xFDAC, [0x644, 0x62C, 0x64A]⟩, ⟨0xFDAD, [0x644, 0x645, 0x64A]⟩,
   ⟨0xFDAE, [0x64A, 0x62D, 0x64A]⟩, ⟨0xFDAF, [0x64A, 0x62C, 0x64A]⟩,
   ⟨0xFDB0, [0x64A, 0x645, 0x64A]⟩, ⟨0xFDB1, [0x645, 0x645, 0x64A]⟩,
   ⟨0xFDB2, [0x642, 0x645, 0x64A]⟩, ⟨0xFDB3, [0x646, 0x62D, 0x64A]⟩,
   ⟨0xFDB4, [0x642, 0x645, 0x62D]⟩, ⟨0xFDB5, [0x644, 0x62D, 0x645]⟩,
   ⟨0xFDB6, [0x639, 0x645, 0x64A]⟩, ⟨0xFDB7, [0x643, 0x645, 0x64A]⟩,
   ⟨0xFDB8, [0x646, 0x62C, 0x62D]⟩, ⟨0xFDB9, [0x645, 0x62E, 0x64A]⟩,
   ⟨0xFDBA, [0x644, 0x62C, 0x645]⟩, ⟨0xFDBB, [0x643, 0x645, 0x645]⟩,
   ⟨0xFDBC, [0x644, 0x62C, 0x645]⟩, ⟨0xFDBD, [0x646, 0x62C, 0x62D]⟩,
   ⟨0xFDBE, [0x62C, 0x62D, 0x64A]⟩, ⟨0xFDBF, [0x62D, 0x62C, 0x64A]⟩,
   ⟨0xFDC0, [0x645, 0x62C, 0x64A]⟩, ⟨0xFDC1, [0x641, 0x645, 0x64A]⟩,
   ⟨0xFDC2, [0x628, 0x62D, 0x64A]⟩, ⟨0xFDC3, [0x643, 0x645, 0x645]⟩,
   ⟨0xFDC4, [0x639, 0x62C, 0x645]⟩, ⟨0xFDC5, [0x635, 0x645, 0x645]⟩,
   ⟨0xFDC6, [0x633, 0x62E, 0x64A]⟩, ⟨0xFDC7, [0x646, 0x62C, 0x64A]⟩,
   ⟨0xFDF0, [0x635, 0x644, 0x6D2]⟩, ⟨0xFDF1, [0x642, 0x644, 0x6D2]⟩,
   ⟨0xFDF2, [0x627, 0x644, 0x644, 0x647]⟩, ⟨0xFDF3, [0x627, 0x643, 0x628, 0x631]⟩,
   ⟨0xFDF4, [0x645, 0x62D, 0x645, 0x62F]⟩, ⟨0xFDF5, [0x635, 0x644, 0x639, 0x645]⟩,
   ⟨0xFDF6, [0x631, 0x633, 0x648, 0x644]⟩, ⟨0xFDF7, [0x639, 0x644, 0x64A, 0x647]⟩,
   ⟨0xFDF8, [0x648, 0x633, 0x644, 0x645]⟩, ⟨0xFDF9, [0x635, 0x644, 0x649]⟩,
   ⟨0xFDFA, [0x635, 0x644, 0x649, 0x20, 0x627, 0x644, 0x644, 0x647, 0x20, 0x639, 0x644,
      0x64A, 0x647, 0x20, 0x648, 0x633, 0x644, 0x645]⟩,
   ⟨0xFDFB, [0x62C, 0x644, 0x20, 0x62C, 0x644, 0x627, 0x644, 0x647]⟩,
   ⟨0xFDFC, [0x631, 0x6CC, 0x627, 0x644]⟩]

/-- The images of presentation forms from U+FE00 on. -/
def moreFormsImages : List Image :=
  [⟨0xFE10, [0x2C]⟩, ⟨0xFE11, [0x3001]⟩, ⟨0xFE15, [0x21]⟩, ⟨0xFE16, [0x3F]⟩, ⟨0xFE31, [0x2014]⟩,
   ⟨0xFE32, [0x2013]⟩, ⟨0xFE33, [0x5F]⟩, ⟨0xFE34, [0x5F]⟩, ⟨0xFE37, [0x7B]⟩, ⟨0xFE38, [0x7D]⟩,
   ⟨0xFE47, [0x5B]⟩, ⟨0xFE48, [0x5D]⟩, ⟨0xFE49, [0x20, 0x305]⟩, ⟨0xFE4A, [0x20, 0x305]⟩,
   ⟨0xFE4B, [0x20, 0x305]⟩, ⟨0xFE4C, [0x20, 0x305]⟩, ⟨0xFE4D, [0x5F]⟩, ⟨0xFE4E, [0x5F]⟩,
   ⟨0xFE4F, [0x5F]⟩, ⟨0xFE50, [0x2C]⟩, ⟨0xFE51, [0x3001]⟩, ⟨0xFE54, [0x3B]⟩, ⟨0xFE55, [0x3A]⟩,
   ⟨0xFE56, [0x3F]⟩, ⟨0xFE57, [0x21]⟩, ⟨0xFE58, [0x2014]⟩, ⟨0xFE5B, [0x7B]⟩, ⟨0xFE5C, [0x7D]⟩,
   ⟨0xFE5F, [0x23]⟩, ⟨0xFE60, [0x26]⟩, ⟨0xFE63, [0x2D]⟩, ⟨0xFE64, [0x3C]⟩, ⟨0xFE65, [0x3E]⟩,
   ⟨0xFE66, [0x3D]⟩, ⟨0xFE68, [0x5C]⟩, ⟨0xFE6B, [0x40]⟩, ⟨0xFE70, [0x20, 0x64B]⟩,
   ⟨0xFE71, [0x640, 0x64B]⟩, ⟨0xFE72, [0x20, 0x64C]⟩, ⟨0xFE74, [0x20, 0x64D]⟩,
   ⟨0xFE76, [0x20, 0x64E]⟩, ⟨0xFE77, [0x640, 0x64E]⟩, ⟨0xFE78, [0x20, 0x64F]⟩,
   ⟨0xFE79, [0x640, 0x64F]⟩, ⟨0xFE7A, [0x20, 0x650]⟩, ⟨0xFE7B, [0x640, 0x650]⟩,
   ⟨0xFE7C, [0x20, 0x651]⟩, ⟨0xFE7D, [0x640, 0x651]⟩, ⟨0xFE7E, [0x20, 0x652]⟩,
   ⟨0xFE7F, [0x640, 0x652]⟩, ⟨0xFE8A, [0x626]⟩, ⟨0xFE8B, [0x626]⟩, ⟨0xFE90, [0x628]⟩,
   ⟨0xFE91, [0x628]⟩, ⟨0xFE96, [0x62A]⟩, ⟨0xFE97, [0x62A]⟩, ⟨0xFE9A, [0x62B]⟩, ⟨0xFE9B, [0x62B]⟩,
   ⟨0xFE9E, [0x62C]⟩, ⟨0xFE9F, [0x62C]⟩, ⟨0xFEA2, [0x62D]⟩, ⟨0xFEA3, [0x62D]⟩, ⟨0xFEA6, [0x62E]⟩,
   ⟨0xFEA7, [0x62E]⟩, ⟨0xFEB2, [0x633]⟩, ⟨0xFEB3, [0x633]⟩, ⟨0xFEB6, [0x634]⟩, ⟨0xFEB7, [0x634]⟩,
   ⟨0xFEBA, [0x635]⟩, ⟨0xFEBB, [0x635]⟩, ⟨0xFEBE, [0x636]⟩, ⟨0xFEBF, [0x636]⟩, ⟨0xFEC2, [0x637]⟩,
   ⟨0xFEC3, [0x637]⟩, ⟨0xFEC6, [0x638]⟩, ⟨0xFEC7, [0x638]⟩, ⟨0xFECA, [0x639]⟩, ⟨0xFECB, [0x639]⟩,
   ⟨0xFECE, [0x63A]⟩, ⟨0xFECF, [0x63A]⟩, ⟨0xFED0, [0x63A]⟩, ⟨0xFED1, [0x641]⟩, ⟨0xFED2, [0x641]⟩,
   ⟨0xFED3, [0x641]⟩, ⟨0xFED6, [0x642]⟩, ⟨0xFED7, [0x642]⟩, ⟨0xFEDA, [0x643]⟩, ⟨0xFEDB, [0x643]⟩,
   ⟨0xFEDE, [0x644]⟩, ⟨0xFEDF, [0x644]⟩, ⟨0xFEE2, [0x645]⟩, ⟨0xFEE3, [0x645]⟩, ⟨0xFEE6, [0x646]⟩,
   ⟨0xFEE7, [0x646]⟩, ⟨0xFEEA, [0x647]⟩, ⟨0xFEEB, [0x647]⟩, ⟨0xFEF2, [0x64A]⟩, ⟨0xFEF3, [0x64A]⟩,
   ⟨0xFEF4, [0x64A]⟩, ⟨0xFEF5, [0x644, 0x622]⟩, ⟨0xFEF6, [0x644, 0x622]⟩, ⟨0xFEF7, [0x644, 0x623]⟩,
   ⟨0xFEF8, [0x644, 0x623]⟩, ⟨0xFEF9, [0x644, 0x625]⟩, ⟨0xFEFA, [0x644, 0x625]⟩,
   ⟨0xFEFB, [0x644, 0x627]⟩, ⟨0xFEFC, [0x644, 0x627]⟩, ⟨0xFF61, [0x2E]⟩, ⟨0xFF64, [0x3001]⟩,
   ⟨0xFF65, [0x30FB]⟩, ⟨0xFF66, [0x30F2]⟩, ⟨0xFF67, [0x30A1]⟩, ⟨0xFF68, [0x30A3]⟩,
   ⟨0xFF69, [0x30A5]⟩, ⟨0xFF6A, [0x30A7]⟩, ⟨0xFF6B, [0x30A9]⟩, ⟨0xFF6C, [0x30E3]⟩,
   ⟨0xFF6D, [0x30E5]⟩, ⟨0xFF6E, [0x30E7]⟩, ⟨0xFF6F, [0x30C3]⟩, ⟨0xFF70, [0x30FC]⟩,
   ⟨0xFF71, [0x30A2]⟩, ⟨0xFF72, [0x30A4]⟩, ⟨0xFF73, [0x30A6]⟩, ⟨0xFF74, [0x30A8]⟩,
   ⟨0xFF77, [0x30AD]⟩, ⟨0xFF78, [0x30AF]⟩, ⟨0xFF79, [0x30B1]⟩, ⟨0xFF7A, [0x30B3]⟩,
   ⟨0xFF7B, [0x30B5]⟩, ⟨0xFF7C, [0x30B7]⟩, ⟨0xFF7D, [0x30B9]⟩, ⟨0xFF7E, [0x30BB]⟩,
   ⟨0xFF7F, [0x30BD]⟩, ⟨0xFF80, [0x30BF]⟩, ⟨0xFF81, [0x30C1]⟩, ⟨0xFF82, [0x30C4]⟩,
   ⟨0xFF83, [0x30C6]⟩, ⟨0xFF84, [0x30C8]⟩, ⟨0xFF8B, [0x30D2]⟩, ⟨0xFF8C, [0x30D5]⟩,
   ⟨0xFF8D, [0x30D8]⟩, ⟨0xFF8E, [0x30DB]⟩, ⟨0xFF94, [0x30E4]⟩, ⟨0xFF95, [0x30E6]⟩,
   ⟨0xFF9C, [0x30EF]⟩, ⟨0xFF9D, [0x30F3]⟩, ⟨0xFFA3, [0x11AA]⟩, ⟨0xFFA4, [0x1102]⟩,
   ⟨0xFFB0, [0x111A]⟩, ⟨0xFFB4, [0x1121]⟩, ⟨0xFFE2, [0xAC]⟩, ⟨0xFFE3, [0x20, 0x304]⟩,
   ⟨0xFFE4, [0xA6]⟩, ⟨0xFFE5, [0xA5]⟩, ⟨0xFFE6, [0x20A9]⟩, ⟨0xFFE8, [0x2502]⟩, ⟨0xFFED, [0x25A0]⟩,
   ⟨0xFFEE, [0x25CB]⟩]

end SchemaRules.Url.Domain
